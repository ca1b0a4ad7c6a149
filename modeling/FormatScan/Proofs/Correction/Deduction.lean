import FormatScan.Proofs.Correction.Relocation
import Mathlib.Algebra.BigOperators.Group.List.Basic
import Mathlib.Algebra.GroupWithZero.Nat

/-!
# What is taken from a count

A count that neither moves nor goes is what it was, less the counts of the signatures that deduct
from it; the count of the container is also less those of the derived formats, as the deductions
before have left them.
-/

namespace FormatScan.Stats

variable {signatures : List Signature} {policy : ContainerPolicy} {s : Stats} {name : String}

/-- The signatures other than that of a name whose files count as files of the name, too. -/
def deductors (signatures : List Signature) (name : String) : List Signature :=
  signatures.filter fun s => s.deductFrom = some name ∧ s.name ≠ name

/-! ### The deductions -/

/-- The deductions that concern a name take from its entry what they would take all at once. -/
theorem get?_foldl_subtract (taken : List (String × String)) (amount : String → Nat)
    (c : Counts) (name : String) :
    (taken.foldl (fun c d => c.subtract d.1 (amount d.2)) c).get? name =
      (c.get? name).map (· - ((taken.filter (·.1 = name)).map fun d => amount d.2).sum) := by
  induction taken generalizing c with
  | nil => simp
  | cons d rest ih =>
      rw [List.foldl_cons, ih, Counts.get?_subtract]
      by_cases heq : d.1 = name
      · rw [if_pos heq, List.filter_cons_of_pos (by simpa using heq), List.map_cons, List.sum_cons,
          Option.map_map]
        apply congrArg (Option.map · (c.get? name))
        funext n
        exact Nat.sub_sub n _ _
      · rw [if_neg heq, List.filter_cons_of_neg (by simpa using heq)]

theorem names_foldl_subtract (taken : List (String × String)) (amount : String → Nat)
    (c : Counts) : (taken.foldl (fun c d => c.subtract d.1 (amount d.2)) c).names = c.names := by
  induction taken generalizing c with
  | nil => rfl
  | cons d rest ih => rw [List.foldl_cons, ih, Counts.names_subtract]

theorem filter_deductions (signatures : List Signature) (name : String) :
    (deductions signatures).filter (·.1 = name) =
      (deductors signatures name).map fun s => (name, s.name) := by
  rw [deductions, deductors, List.filter_filterMap, ← List.filterMap_eq_map, List.filterMap_filter]
  apply List.filterMap_congr
  intro s _
  cases s.deductFrom with
  | none => simp
  | some parent =>
      by_cases hname : parent = name
      · subst hname
        by_cases hself : parent = s.name
        · simp [← hself]
        · simp [hself, Ne.symm hself]
      · by_cases hself : parent = s.name
        · simp [hself]
        · simp [hname, hself]

/-- What the deductors had at first is taken from an entry at once, and the entry stays. -/
theorem get?_deduct (signatures : List Signature) (s : Stats) (name : String) :
    (deduct signatures s).counts.get? name =
      (s.counts.get? name).map
        (· - ((deductors signatures name).map fun c => s.count c.name).sum) := by
  have hentry := get?_foldl_subtract (deductions signatures) s.count s.counts name
  rw [filter_deductions, List.map_map] at hentry
  exact hentry

theorem count_deduct (signatures : List Signature) (s : Stats) (name : String) :
    (deduct signatures s).count name =
      s.count name - ((deductors signatures name).map fun c => s.count c.name).sum := by
  rw [count, Counts.count, get?_deduct, count, Counts.count]
  cases s.counts.get? name with
  | none => simp
  | some n => rfl

/-- A deduction adds no name and drops none. -/
theorem names_deduct (signatures : List Signature) (s : Stats) :
    (deduct signatures s).counts.names = s.counts.names :=
  names_foldl_subtract (deductions signatures) s.count s.counts

theorem deduct_eq_of_get?_eq {signatures' : List Signature}
    (hentry : ∀ name, (deduct signatures s).counts.get? name =
      (deduct signatures' s).counts.get? name) : deduct signatures s = deduct signatures' s := by
  have hcounts : (deduct signatures s).counts = (deduct signatures' s).counts :=
    Counts.ext_get? hentry
  calc
    deduct signatures s = { s with counts := (deduct signatures s).counts } := rfl
    _ = { s with counts := (deduct signatures' s).counts } := by rw [hcounts]
    _ = deduct signatures' s := rfl

/-- Sums have no order, and so the deductions have none. -/
theorem deduct_eq_of_perm {signatures' : List Signature} (hperm : signatures.Perm signatures')
    (s : Stats) : deduct signatures s = deduct signatures' s := by
  apply deduct_eq_of_get?_eq
  intro name
  have hsum : ((deductors signatures name).map fun c => s.count c.name).sum =
      ((deductors signatures' name).map fun c => s.count c.name).sum :=
    ((hperm.filter _).map _).sum_eq
  rw [get?_deduct, get?_deduct, hsum]

theorem deductors_deductors (signatures : List Signature) (name : String) :
    deductors (deductors signatures name) name = deductors signatures name := by
  simp only [deductors, List.filter_filter, Bool.and_self]

/-- What happens to a name is what the signatures that deduct from it make of it alone: what they
lose themselves has no part in it. -/
theorem get?_deduct_deductors (signatures : List Signature) (s : Stats) (name : String) :
    (deduct (deductors signatures name) s).counts.get? name =
      (deduct signatures s).counts.get? name := by
  rw [get?_deduct, get?_deduct, deductors_deductors]

/-- The deductions keep all entries, and take from each at once what the signatures that deduct from
it had at first. So they are not handed on from one to the next, and their order is of no
account. -/
theorem deduct_takes_at_once (signatures : List Signature) (s : Stats) :
    deduct signatures s = { s with counts := (deduct signatures s).counts } ∧
    (deduct signatures s).counts.names = s.counts.names ∧
    (∀ name, (deduct signatures s).counts.get? name =
      (s.counts.get? name).map
        (· - ((deductors signatures name).map fun c => s.count c.name).sum)) ∧
    (∀ name, (deduct (deductors signatures name) s).counts.get? name =
      (deduct signatures s).counts.get? name) ∧
    ∀ reordered, signatures.Perm reordered → deduct reordered s = deduct signatures s := by
  refine ⟨rfl, names_deduct signatures s, get?_deduct signatures s,
    get?_deduct_deductors signatures s, ?_⟩
  intro reordered hperm
  exact (deduct_eq_of_perm hperm s).symm

def circle : List Signature :=
  [{ name := "A", deductFrom := some "B" }, { name := "B", deductFrom := some "C" },
    { name := "C", deductFrom := some "A" }, { name := "A", deductFrom := some "B" },
    { name := "D", deductFrom := some "D" }]

/-- `B` loses what `A` had twice over, down to zero, and `C` loses all that `B` had. -/
theorem deduct_takes_at_once_circle :
    circle.Perm circle.reverse ∧
      deduct circle.reverse { counts := .ofList [("A", 2), ("B", 3), ("C", 9), ("D", 4)] } =
        { counts := .ofList [("A", 0), ("B", 0), ("C", 6), ("D", 4)] } := by
  have hperm : circle.Perm circle.reverse := circle.reverse_perm.symm
  refine ⟨hperm, ?_⟩
  rw [(deduct_takes_at_once circle _).2.2.2.2 circle.reverse hperm]
  decide +kernel

/-! ### The container -/

theorem derivedCount_eq_sum (policy : ContainerPolicy) (s : Stats) :
    derivedCount policy s = (policy.derived.map s.count).sum := by
  rw [derivedCount]
  induction policy.derived with
  | nil => rfl
  | cons name rest ih => rw [List.foldr_cons, ih, List.map_cons, List.sum_cons]

/-- The container loses as much as there is of all derived formats together. -/
theorem count_deductDerived (policy : ContainerPolicy) (s : Stats) :
    (deductDerived policy s).count policy.container =
      s.count policy.container - (policy.derived.map s.count).sum := by
  rw [deductDerived, count, Counts.count_subtract, if_pos rfl, derivedCount_eq_sum]
  rfl

/-! ### Passes that leave a name alone -/

theorem count_relocateEmbedded (hembedded : name ∉ policy.embedded)
    (hthresholded : name ∉ policy.thresholded) (s : Stats) :
    (relocateEmbedded policy s).count name = s.count name := by
  apply (relocates_relocateEmbedded policy s).count_of_not_moved
  rintro ⟨-, hmem | ⟨hmem, -⟩⟩
  · exact hembedded hmem
  · exact hthresholded hmem

theorem count_excludePairs_of_not_paired
    (hunpaired : ∀ pair ∈ exclusivePairs signatures, pair.1 ≠ name ∧ pair.2 ≠ name) (s : Stats) :
    (excludePairs signatures s).count name = s.count name := by
  rw [excludePairs]
  apply foldl_eq_of_mem (·.count name)
  intro pair hpair s
  rcases excludeOne_eq_or_drop signatures s pair with hidle | ⟨loser, hloser, hdrop⟩
  · rw [hidle]
  · have hne : loser ≠ name := by
      rcases hloser with rfl | rfl
      · exact (hunpaired pair hpair).1
      · exact (hunpaired pair hpair).2
    rw [hdrop, count_drop, if_neg hne]

/-- The count of a container that nothing but the deductions touch. -/
theorem count_correct_container (signatures : List Signature) (policy : ContainerPolicy)
    (hembedded : policy.container ∉ policy.embedded)
    (hthresholded : policy.container ∉ policy.thresholded)
    (hunpaired : ∀ pair ∈ exclusivePairs signatures,
      pair.1 ≠ policy.container ∧ pair.2 ≠ policy.container) (s : Stats) :
    (correct signatures policy s).count policy.container =
      s.count policy.container -
          ((deductors signatures policy.container).map fun c => s.count c.name).sum -
        (policy.derived.map fun d =>
          s.count d - ((deductors signatures d).map fun c => s.count c.name).sum).sum := by
  have hderived : (deduct signatures s).count = fun d =>
      s.count d - ((deductors signatures d).map fun c => s.count c.name).sum :=
    funext (count_deduct signatures s)
  rw [correct, count_excludePairs_of_not_paired hunpaired,
    count_relocateEmbedded hembedded hthresholded, count_deductDerived, hderived]

end FormatScan.Stats
