import FormatScan.Proofs.Run.Cover

/-!
# Parts of nearly the same size

The ranges of a partition lead from the first item to the last. None of them is empty, none is
larger than another one by more than an item, and the larger ones come first. Where the `i`-th range
begins, `i` times the smaller size has been taken, and one item more for each larger range that has
gone by; so no sum on the way is greater than the number of items.
-/

namespace FormatScan

variable {start stop : Nat} {range : IndexRange} {ranges : List IndexRange}
  {sizes : List Nat}

namespace IndexRange

/-- Ranges that lead from one index to another: each begins where the one before it ends, and none
is empty. -/
inductive Spans : Nat → Nat → List IndexRange → Prop
  | nil (place : Nat) : Spans place place []
  | cons {start next stop : Nat} {ranges : List IndexRange} (hlt : start < next)
      (hrest : Spans next stop ranges) : Spans start stop (⟨start, next⟩ :: ranges)

namespace Spans

theorem le (hspans : Spans start stop ranges) : start ≤ stop := by
  induction hspans with
  | nil => exact Nat.le_refl _
  | cons hlt _ ih => exact Nat.le_trans (Nat.le_of_lt hlt) ih

/-- No range is empty, and none goes beyond the end. -/
theorem bounds_of_mem (hspans : Spans start stop ranges) (hmem : range ∈ ranges) :
    range.start < range.stop ∧ range.stop ≤ stop := by
  induction hspans with
  | nil => exact absurd hmem List.not_mem_nil
  | cons hlt hrest ih =>
      rcases List.mem_cons.1 hmem with rfl | hmem
      · exact ⟨hlt, hrest.le⟩
      · exact ih hmem

/-- An index within what the ranges lead through is in one of them, and in no other one. -/
theorem countP_eq (hspans : Spans start stop ranges) (index : Nat) :
    ranges.countP (fun range => range.start ≤ index ∧ index < range.stop) =
      if start ≤ index ∧ index < stop then 1 else 0 := by
  induction hspans with
  | nil place =>
      rw [List.countP_nil, if_neg]
      omega
  | @cons start next stop ranges hlt hrest ih =>
      have hle := hrest.le
      rw [List.countP_cons, ih]
      by_cases hnext : index < next
      · by_cases hstart : start ≤ index
        · have hstop : index < stop := Nat.lt_of_lt_of_le hnext hle
          simp [hstart, hnext, hstop]
        · have hbefore : ¬next ≤ index := by omega
          simp [hstart, hbefore]
      · have hstart : start ≤ index := by omega
        have hreached : next ≤ index := by omega
        simp [hstart, hnext, hreached]

end Spans

/-! ### Ranges in a row -/

theorem spans_inRow (hpos : ∀ size ∈ sizes, 0 < size) (start : Nat) :
    Spans start (start + sizes.sum) (inRow start sizes) := by
  induction sizes generalizing start with
  | nil => exact .nil start
  | cons size sizes ih =>
      obtain ⟨hsize, hsizes⟩ := List.forall_mem_cons.1 hpos
      rw [List.sum_cons, ← Nat.add_assoc]
      exact .cons (by omega) (ih hsizes (start + size))

theorem map_size_inRow (start : Nat) (sizes : List Nat) :
    (inRow start sizes).map size = sizes := by
  induction sizes generalizing start with
  | nil => rfl
  | cons size sizes ih =>
      rw [inRow, List.map_cons, ih]
      simp [IndexRange.size]

theorem start_of_getElem?_inRow {i : Nat} (hrange : (inRow start sizes)[i]? = some range) :
    range.start = start + (sizes.take i).sum := by
  induction sizes generalizing start i with
  | nil => simp [inRow] at hrange
  | cons size sizes ih =>
      cases i with
      | zero =>
          have heq : IndexRange.mk start (start + size) = range := by simpa [inRow] using hrange
          simp [← heq]
      | succ i =>
          rw [inRow, List.getElem?_cons_succ] at hrange
          rw [ih hrange, List.take_succ_cons, List.sum_cons, Nat.add_assoc]

end IndexRange

/-! ### Balanced sizes -/

theorem length_balancedSizes (count parts : Nat) : (balancedSizes count parts).length = parts := by
  rw [balancedSizes, List.length_map, List.length_range]

theorem pairwise_balancedSizes (count parts : Nat) :
    (balancedSizes count parts).Pairwise fun earlier later =>
      later ≤ earlier ∧ earlier ≤ later + 1 := by
  refine List.pairwise_map.2 (List.pairwise_lt_range.imp ?_)
  intro i j hlt
  split <;> split <;> omega

theorem pos_of_mem_balancedSizes {count parts size : Nat} (hparts : parts ≤ count)
    (hmem : size ∈ balancedSizes count parts) : 0 < size := by
  obtain ⟨i, hi, rfl⟩ := List.mem_map.1 hmem
  have hquotient : 0 < count / parts :=
    Nat.div_pos hparts (Nat.zero_lt_of_lt (List.mem_range.1 hi))
  omega

/-- The first parts have the even share each, and one more as long as the remainder lasts. -/
theorem sum_take_balancedSizes {count parts i : Nat} (hi : i ≤ parts) :
    ((balancedSizes count parts).take i).sum = i * (count / parts) + min i (count % parts) := by
  rw [balancedSizes, ← List.map_take, List.take_range, Nat.min_eq_left hi, sum_map_range_add_ite]

/-! ### The partition -/

/-- There are as many parts as are asked for, but no more than items, and one if none is asked
for. -/
theorem partition_eq_inRow (count parts : Nat) :
    partition count parts =
      IndexRange.inRow 0 (balancedSizes count (min count (max parts 1))) := by
  by_cases hcount : count = 0
  · subst hcount
    rw [Nat.zero_min]
    rfl
  · have hparts : max (min parts count) 1 = min count (max parts 1) := by omega
    rw [partition, if_neg hcount, hparts]

theorem length_partition (count parts : Nat) :
    (partition count parts).length = min count (max parts 1) := by
  have hsizes := congrArg List.length
    (IndexRange.map_size_inRow 0 (balancedSizes count (min count (max parts 1))))
  rw [List.length_map, length_balancedSizes, ← partition_eq_inRow] at hsizes
  exact hsizes

/-- The parts lead from the first index to the last one. -/
theorem spans_partition (count parts : Nat) :
    IndexRange.Spans 0 count (partition count parts) := by
  have hspans := IndexRange.spans_inRow
    (fun size => pos_of_mem_balancedSizes (Nat.min_le_left count (max parts 1))) 0
  rw [← partition_eq_inRow, Nat.zero_add] at hspans
  by_cases hcount : count = 0
  · subst hcount
    exact .nil 0
  · rwa [sum_balancedSizes count (by omega)] at hspans

theorem map_size_partition (count parts : Nat) :
    (partition count parts).map IndexRange.size =
      balancedSizes count (min count (max parts 1)) := by
  rw [partition_eq_inRow, IndexRange.map_size_inRow]

theorem pairwise_size_partition (count parts : Nat) :
    (partition count parts).Pairwise fun earlier later =>
      later.size ≤ earlier.size ∧ earlier.size ≤ later.size + 1 := by
  have hsizes := pairwise_balancedSizes count (min count (max parts 1))
  rw [← map_size_partition] at hsizes
  exact List.pairwise_map.1 hsizes

/-- Where a range begins and how many items it takes. -/
theorem eq_of_getElem?_partition {count parts i : Nat}
    (hrange : (partition count parts)[i]? = some range) :
    range.start = i * (count / (partition count parts).length) +
        min i (count % (partition count parts).length) ∧
      range.size = count / (partition count parts).length +
        if i < count % (partition count parts).length then 1 else 0 := by
  have hi : i < min count (max parts 1) := by
    rw [← length_partition]
    exact (List.getElem?_eq_some_iff.1 hrange).1
  rw [length_partition]
  constructor
  · rw [partition_eq_inRow] at hrange
    rw [IndexRange.start_of_getElem?_inRow hrange, Nat.zero_add,
      sum_take_balancedSizes (Nat.le_of_lt hi)]
  · have hsize : ((partition count parts).map IndexRange.size)[i]? = some range.size := by
      rw [List.getElem?_map, hrange, Option.map_some]
    rw [map_size_partition, balancedSizes, List.getElem?_map, List.getElem?_range hi] at hsize
    exact (Option.some.inj hsize).symm

/-- A partition takes every item exactly once, in the order of the items, in parts of nearly the
same size. The sums that lead from range to range stay within the number of items. -/
theorem partition_covers_evenly (count parts : Nat) :
    (partition count parts).length = min count (max parts 1) ∧
      IndexRange.Spans 0 count (partition count parts) ∧
      (partition count parts).Pairwise (fun earlier later =>
        later.size ≤ earlier.size ∧ earlier.size ≤ later.size + 1) ∧
      (∀ (α : Type) (items : List α), items.length = count →
        (partition count parts).flatMap (·.slice items) = items) ∧
      (∀ index < count, (partition count parts).countP
        (fun range => range.start ≤ index ∧ index < range.stop) = 1) ∧
      ∀ i range, (partition count parts)[i]? = some range →
        range.start = i * (count / (partition count parts).length) +
            min i (count % (partition count parts).length) ∧
          range.size = count / (partition count parts).length +
            (if i < count % (partition count parts).length then 1 else 0) ∧
          range.start + range.size = range.stop ∧ range.stop ≤ count := by
  have hspans := spans_partition count parts
  refine ⟨length_partition count parts, hspans, pairwise_size_partition count parts, ?slices,
    ?indices, ?sums⟩
  case slices =>
    intro α items hlength
    rw [← hlength]
    exact flatMap_slice_partition items parts
  case indices =>
    intro index hindex
    rw [hspans.countP_eq, if_pos ⟨Nat.zero_le index, hindex⟩]
  case sums =>
    intro i range hrange
    have hmem := List.mem_of_getElem? hrange
    obtain ⟨hstart, hsize⟩ := eq_of_getElem?_partition hrange
    obtain ⟨hlt, hstop⟩ := hspans.bounds_of_mem hmem
    exact ⟨hstart, hsize, Nat.add_sub_cancel' (Nat.le_of_lt hlt), hstop⟩

theorem partition_covers_evenly_seven :
    (partition 7 3).length = 3 ∧
      (partition 7 3).flatMap (·.slice (List.range 7)) = List.range 7 ∧
      3 < 7 ∧ (partition 7 3).countP (fun range => range.start ≤ 3 ∧ 3 < range.stop) = 1 ∧
      (partition 7 3)[1]? = some ⟨3, 5⟩ ∧ 3 = 1 * (7 / 3) + min 1 (7 % 3) ∧ 5 ≤ 7 := by
  obtain ⟨hlength, -, -, hslices, hindices, hsums⟩ := partition_covers_evenly 7 3
  have hsecond : (partition 7 3)[1]? = some ⟨3, 5⟩ := by decide
  obtain ⟨hstart, -, -, hstop⟩ := hsums 1 _ hsecond
  rw [hlength] at hstart
  exact ⟨hlength, hslices _ _ (List.length_range), by decide, hindices 3 (by decide), hsecond,
    hstart, hstop⟩

end FormatScan
