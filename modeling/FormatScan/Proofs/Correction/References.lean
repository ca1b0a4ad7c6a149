import FormatScan.Proofs.Correction.Order

/-!
# References that lead nowhere

A definition refers to other ones by their names. Where no definition has the name, or where it is
that of the definition itself, the reference leads nowhere, and the correction takes no notice of
it: deductions look for an entry of the name, and a turn of a pair looks for the priorities of both
names.
-/

namespace FormatScan

namespace Signature

def leadsTo (names : List String) (s : Signature) (other : String) : Bool :=
  other ∈ names ∧ other ≠ s.name

/-- The definition without its references that lead nowhere. -/
def keepReferences (names : List String) (s : Signature) : Signature :=
  { s with
    deductFrom := s.deductFrom.filter (s.leadsTo names)
    exclusiveWith := s.exclusiveWith.filter (s.leadsTo names) }

def withoutDangling (xs : List Signature) : List Signature :=
  xs.map (keepReferences (xs.map (·.name)))

end Signature

namespace Stats

open Signature

variable {xs : List Signature} {names : List String} {name : String} {s : Stats}

/-! ### Deductions -/

theorem deductors_map_keepReferences (hname : name ∈ names) :
    deductors (xs.map (keepReferences names)) name =
      (deductors xs name).map (keepReferences names) := by
  unfold deductors
  rw [List.filter_map]
  apply congrArg
  apply List.filter_congr
  intro x _
  simp only [Function.comp_apply, keepReferences, Option.filter_eq_some_iff, leadsTo,
    decide_eq_decide, decide_eq_true_eq, hname, true_and]
  tauto

/-- Where the names are defined that have an entry, no deduction is lost. -/
theorem deduct_withoutDangling (hkeys : ∀ name ∈ s.counts.names, name ∈ xs.map (·.name)) :
    deduct (withoutDangling xs) s = deduct xs s := by
  apply deduct_eq_of_get?_eq
  intro name
  rw [get?_deduct, get?_deduct]
  by_cases hentry : name ∈ s.counts.names
  · rw [withoutDangling, deductors_map_keepReferences (hkeys name hentry), List.map_map]
    rfl
  · rw [Counts.mem_names_iff, not_not] at hentry
    rw [hentry]
    rfl

/-! ### Pairs -/

theorem priority?_withoutDangling (xs : List Signature) :
    priority? (withoutDangling xs) = priority? xs := by
  apply priority?_map
  · exact fun _ => rfl
  · exact fun _ => rfl

theorem mem_names_of_loser? {pair : String × String} (hloser : (loser? xs pair).isSome = true) :
    pair.1 ∈ xs.map (·.name) ∧ pair.2 ∈ xs.map (·.name) := by
  have hdefined {other : String} (hsome : priority? xs other ≠ none) :
      other ∈ xs.map (·.name) := by
    obtain ⟨p, hp⟩ := Option.ne_none_iff_exists'.1 hsome
    obtain ⟨x, hx, hname⟩ := exists_of_priority? hp
    exact List.mem_map.2 ⟨x, hx, hname⟩
  constructor
  · apply hdefined
    intro hnone
    rw [(loser?_eq_none hnone).2] at hloser
    cases hloser
  · apply hdefined
    intro hnone
    rw [(loser?_eq_none hnone).1] at hloser
    cases hloser

/-- A pair with a name that no definition has is none of those that matter. -/
theorem mem_rivalPairs_withoutDangling {pair : String × String} :
    pair ∈ rivalPairs (withoutDangling xs) ↔ pair ∈ rivalPairs xs := by
  have hloser : loser? (withoutDangling xs) pair = loser? xs pair := by
    unfold loser?
    rw [priority?_withoutDangling]
  unfold rivalPairs
  rw [List.mem_filter, List.mem_filter, hloser]
  refine and_congr_left fun hsome => ?_
  -- both members have priorities, and so both of them are names of definitions
  obtain ⟨hfirst, hsecond⟩ := mem_names_of_loser? hsome
  rw [mem_exclusivePairs, mem_exclusivePairs]
  constructor
  · rintro ⟨_, hkept, other, hother, hne, hpair⟩
    obtain ⟨x, hx, rfl⟩ := List.mem_map.1 hkept
    exact ⟨x, hx, other, (List.mem_filter.1 hother).1, hne, hpair⟩
  · rintro ⟨x, hx, other, hother, hne, rfl⟩
    have hnamed : other ∈ xs.map (·.name) := by
      by_cases hlt : x.name < other
      · rwa [if_pos hlt] at hsecond
      · rwa [if_neg hlt] at hfirst
    exact ⟨_, List.mem_map_of_mem hx, other,
      List.mem_filter.2 ⟨hother, decide_eq_true ⟨hnamed, hne⟩⟩, hne, rfl⟩

theorem excludePairs_withoutDangling (xs : List Signature) :
    excludePairs (withoutDangling xs) = excludePairs xs := by
  funext s
  rw [excludePairs_eq_foldl_rivalPairs, excludePairs_eq_foldl_rivalPairs,
    rivalPairs_eq_of_mem_iff fun _ => mem_rivalPairs_withoutDangling,
    excludeOne_congr (priority?_withoutDangling xs)]

/-- The correction takes no notice of references that lead nowhere. -/
theorem correct_withoutDangling (hkeys : ∀ name ∈ s.counts.names, name ∈ xs.map (·.name))
    (policy : ContainerPolicy) :
    correct (withoutDangling xs) policy s = correct xs policy s := by
  unfold correct
  rw [deduct_withoutDangling hkeys, excludePairs_withoutDangling]

end Stats

end FormatScan
