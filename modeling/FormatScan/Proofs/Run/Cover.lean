import FormatScan.Run.Partition
import Mathlib.Algebra.BigOperators.Group.List.Basic
import Mathlib.Algebra.GroupWithZero.Nat

/-!
# The parts of a partition

Whatever the number of parts, the parts put one behind the other are the whole list again.
-/

namespace FormatScan

variable {α : Type}

/-- Slices in a row put the list together again. -/
theorem IndexRange.flatMap_slice_inRow (items : List α) (start : Nat) (sizes : List Nat) :
    (inRow start sizes).flatMap (·.slice items) = (items.drop start).take sizes.sum := by
  induction sizes generalizing start with
  | nil => simp [inRow]
  | cons size sizes ih =>
      have hsize : (IndexRange.mk start (start + size)).slice items =
          (items.drop start).take size := by
        simp [slice, IndexRange.size]
      rw [inRow, List.flatMap_cons, ih, hsize, List.sum_cons, List.take_add, List.drop_drop]

theorem sum_map_range_add_ite (q r parts : Nat) :
    ((List.range parts).map fun i => q + (if i < r then 1 else 0)).sum =
      parts * q + min parts r := by
  induction parts with
  | zero => simp
  | succ parts ih =>
      rw [List.range_succ, List.map_append, List.sum_append, ih, List.map_singleton,
        List.sum_singleton, Nat.succ_mul]
      by_cases hlt : parts < r
      · rw [if_pos hlt]
        omega
      · rw [if_neg hlt]
        omega

theorem sum_balancedSizes (count : Nat) {parts : Nat} (hparts : 0 < parts) :
    (balancedSizes count parts).sum = count := by
  have hrest : count % parts < parts := Nat.mod_lt count hparts
  have hdiv : parts * (count / parts) + count % parts = count := Nat.div_add_mod count parts
  rw [balancedSizes, sum_map_range_add_ite]
  omega

/-- No item is left out, none is taken twice, and their order is kept. -/
theorem flatMap_slice_partition (items : List α) (workers : Nat) :
    (partition items.length workers).flatMap (·.slice items) = items := by
  by_cases hlength : items.length = 0
  · rw [List.length_eq_zero_iff.1 hlength]
    simp [partition]
  · have hparts : 0 < max (min workers items.length) 1 := by omega
    rw [partition, if_neg hlength, IndexRange.flatMap_slice_inRow, sum_balancedSizes _ hparts]
    simp

theorem partition_eq_nil_iff {count workers : Nat} : partition count workers = [] ↔ count = 0 := by
  by_cases hcount : count = 0
  · simp [partition, hcount]
  · obtain ⟨parts, hparts⟩ : ∃ parts, max (min workers count) 1 = parts + 1 :=
      ⟨max (min workers count) 1 - 1, by omega⟩
    simp [partition, hcount, hparts, balancedSizes, List.range_succ_eq_map, IndexRange.inRow]

end FormatScan
