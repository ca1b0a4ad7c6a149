import FormatScan.Proofs.Correction.Deduction
import FormatScan.Proofs.Correction.Rivals
import Mathlib.Data.Bool.Basic

/-!
# The order of the definitions

The correction reads the definitions in their order, but nothing of the order is left in what it
makes of the counts: deductions commute, and the pairs that exclude each other are put in an order
of their own. Nor does it matter which member of a pair declares it.
-/

namespace FormatScan

namespace Signature

def undeclared (s : Signature) : Signature := { s with exclusiveWith := [] }

end Signature

namespace Stats

open Signature

variable {xs ys : List Signature} {name : String} {pair : String × String}

def ExcludesIn (xs : List Signature) (name other : String) : Prop :=
  ∃ s ∈ xs, ∃ t ∈ xs, s.name = name ∧ t.name = other ∧ s.Excludes t

/-- The same definitions in some order, which declare of the same pairs that they exclude each
other. -/
structure Redeclares (xs ys : List Signature) : Prop where
  definitions : (xs.map undeclared).Perm (ys.map undeclared)
  excludes (name other : String) : ExcludesIn xs name other ↔ ExcludesIn ys name other

/-! ### Deductions -/

theorem deduct_map_undeclared (xs : List Signature) (s : Stats) :
    deduct (xs.map undeclared) s = deduct xs s := by
  unfold deduct deductions
  rw [List.filterMap_map]
  rfl

theorem deduct_eq_of_redeclares (hsame : Redeclares xs ys) (s : Stats) :
    deduct xs s = deduct ys s := by
  calc
    deduct xs s = deduct (xs.map undeclared) s := (deduct_map_undeclared xs s).symm
    _ = deduct (ys.map undeclared) s := deduct_eq_of_perm hsame.definitions s
    _ = deduct ys s := deduct_map_undeclared ys s

/-! ### Priorities -/

/-- Priorities have to do with nothing in the definitions but names and priorities. -/
theorem priority?_map {f : Signature → Signature} (hname : ∀ s, (f s).name = s.name)
    (hpriority : ∀ s, (f s).priority = s.priority) (xs : List Signature) :
    priority? (xs.map f) = priority? xs := by
  funext name
  unfold priority?
  rw [← List.map_reverse, List.find?_map, Option.map_map]
  simp only [Function.comp_def, hname, hpriority]

theorem priority?_eq_some_iff (hnames : (xs.map (·.name)).Nodup) {p : Int32} :
    priority? xs name = some p ↔ ∃ s ∈ xs, s.name = name ∧ s.priority = p := by
  constructor
  · intro hpriority
    obtain ⟨s, hs, rfl⟩ := exists_of_priority? hpriority
    exact ⟨s, hs, rfl, Option.some.inj ((priority?_of_mem hnames hs).symm.trans hpriority)⟩
  · rintro ⟨s, hs, rfl, rfl⟩
    exact priority?_of_mem hnames hs

/-- The order of definitions decides about a priority only where two of them have one name. -/
theorem priority?_eq_of_perm (hnames : (xs.map (·.name)).Nodup) (hperm : xs.Perm ys)
    (name : String) : priority? xs name = priority? ys name := by
  have hnames' : (ys.map (·.name)).Nodup := (hperm.map _).nodup_iff.1 hnames
  ext p
  simp only [priority?_eq_some_iff hnames, priority?_eq_some_iff hnames', hperm.mem_iff]

theorem priority?_eq_of_redeclares (hnames : (xs.map (·.name)).Nodup) (hsame : Redeclares xs ys) :
    priority? xs = priority? ys := by
  have hnames' : ((xs.map undeclared).map (·.name)).Nodup := by
    rw [List.map_map]
    exact hnames
  funext name
  calc
    priority? xs name = priority? (xs.map undeclared) name := by
      rw [priority?_map (f := undeclared) (fun _ => rfl) fun _ => rfl]
    _ = priority? (ys.map undeclared) name := priority?_eq_of_perm hnames' hsame.definitions name
    _ = priority? ys name := by
      rw [priority?_map (f := undeclared) (fun _ => rfl) fun _ => rfl]

/-- Of the definitions, a turn asks for the priorities only. -/
theorem excludeOne_congr (hpriority : priority? xs = priority? ys) :
    excludeOne xs = excludeOne ys := by
  funext s pair
  unfold excludeOne loser?
  rw [hpriority]

/-- A turn looks at nothing of the definitions but their priorities. -/
theorem excludeOne_eq_of_redeclares (hnames : (xs.map (·.name)).Nodup) (hsame : Redeclares xs ys) :
    excludeOne xs = excludeOne ys :=
  excludeOne_congr (priority?_eq_of_redeclares hnames hsame)

/-! ### Pairs -/

theorem pairwise_eraseDups {α : Type} [BEq α] [LawfulBEq α] {R : α → α → Prop} {items : List α}
    (hpairwise : items.Pairwise R) : items.eraseDups.Pairwise fun a b => R a b ∧ a ≠ b := by
  induction hlength : items.length using Nat.strongRecOn generalizing items with
  | _ length ih =>
      cases items with
      | nil => exact .nil
      | cons item rest =>
          obtain ⟨hitem, hrest⟩ := List.pairwise_cons.1 hpairwise
          have hshorter := List.length_filter_le (fun other => !other == item) rest
          rw [List.length_cons] at hlength
          rw [List.eraseDups_cons, List.pairwise_cons]
          refine ⟨?_, ih _ (by omega) (hrest.filter _) rfl⟩
          intro other hother
          obtain ⟨hmem, hne⟩ := List.mem_filter.1 (List.mem_eraseDups.1 hother)
          exact ⟨hitem other hmem, by rintro rfl; simp at hne⟩

theorem pairLe_iff {a b : String × String} :
    pairLe a b = true ↔ a.1 < b.1 ∨ (a.1 = b.1 ∧ a.2 ≤ b.2) := by
  simp [pairLe]

theorem pairLe_total (a b : String × String) : (pairLe a b || pairLe b a) = true := by
  rw [Bool.or_eq_true, pairLe_iff, pairLe_iff]
  by_cases hlt : a.1 < b.1
  · exact .inl (.inl hlt)
  · by_cases hgt : b.1 < a.1
    · exact .inr (.inl hgt)
    · have heq := String.le_antisymm (String.not_lt.1 hgt) (String.not_lt.1 hlt)
      rcases String.le_total a.2 b.2 with hle | hle
      · exact .inl (.inr ⟨heq, hle⟩)
      · exact .inr (.inr ⟨heq.symm, hle⟩)

theorem pairLe_trans (a b c : String × String) (hab : pairLe a b = true)
    (hbc : pairLe b c = true) : pairLe a c = true := by
  rw [pairLe_iff] at hab hbc ⊢
  rcases hab with hlt | ⟨heq, hle⟩
  · rcases hbc with hlt' | ⟨heq', -⟩
    · exact .inl (String.lt_trans hlt hlt')
    · exact .inl (heq' ▸ hlt)
  · rcases hbc with hlt' | ⟨heq', hle'⟩
    · exact .inl (heq ▸ hlt')
    · exact .inr ⟨heq.trans heq', String.le_trans hle hle'⟩

theorem pairLe_antisymm (a b : String × String) (hab : pairLe a b = true)
    (hba : pairLe b a = true) : a = b := by
  rw [pairLe_iff] at hab hba
  rcases hab with hlt | ⟨heq, hle⟩
  · rcases hba with hlt' | ⟨heq', -⟩
    · exact absurd hlt' (String.lt_asymm hlt)
    · rw [heq'] at hlt
      exact absurd hlt (String.lt_irrefl _)
  · rcases hba with hlt' | ⟨-, hle'⟩
    · rw [heq] at hlt'
      exact absurd hlt' (String.lt_irrefl _)
    · exact Prod.ext heq (String.le_antisymm hle hle')

def rivalPairs (xs : List Signature) : List (String × String) :=
  (exclusivePairs xs).filter fun pair => (loser? xs pair).isSome

/-- The pairs are in strict order, so that a set of pairs has one list only. -/
theorem pairwise_exclusivePairs (xs : List Signature) :
    (exclusivePairs xs).Pairwise fun a b => pairLe a b = true ∧ a ≠ b :=
  pairwise_eraseDups (List.pairwise_mergeSort pairLe_trans pairLe_total _)

/-- The turns of other pairs may be left out. -/
theorem excludePairs_eq_foldl_rivalPairs (xs : List Signature) (s : Stats) :
    excludePairs xs s = (rivalPairs xs).foldl (excludeOne xs) s := by
  have hidle : (fun s pair => if (loser? xs pair).isSome = true then excludeOne xs s pair else s) =
      excludeOne xs := by
    funext s pair
    unfold excludeOne
    cases loser? xs pair <;> simp
  unfold excludePairs rivalPairs
  rw [List.foldl_filter, hidle]

def pairOf (name other : String) : String × String :=
  if name < other then (name, other) else (other, name)

/-- The pairs are those of two definitions one of which excludes the other. -/
theorem mem_rivalPairs (hnames : (xs.map (·.name)).Nodup) :
    pair ∈ rivalPairs xs ↔ ∃ name other, ExcludesIn xs name other ∧ pairOf name other = pair := by
  unfold rivalPairs
  rw [List.mem_filter]
  constructor
  · rintro ⟨hpair, hloser⟩
    obtain ⟨s, hs, other, hdeclared, hne, rfl⟩ := mem_exclusivePairs.1 hpair
    -- who declares a pair need not find the other one defined
    cases hother : priority? xs other with
    | none =>
        have hnone : loser? xs (s.name, other) = none ∧ loser? xs (other, s.name) = none :=
          loser?_eq_none hother
        split at hloser
        · rw [hnone.1] at hloser
          cases hloser
        · rw [hnone.2] at hloser
          cases hloser
    | some p =>
        obtain ⟨t, ht, rfl⟩ := exists_of_priority? hother
        exact ⟨s.name, t.name, ⟨s, hs, t, ht, rfl, rfl, Ne.symm hne, .inl hdeclared⟩, rfl⟩
  · rintro ⟨_, _, ⟨s, hs, t, ht, rfl, rfl, hexcludes⟩, rfl⟩
    refine ⟨pairWith_mem_exclusivePairs hs ht hexcludes, ?_⟩
    rcases outranks_or_outranks hexcludes.1 with houtranks | houtranks
    · exact Option.isSome_of_eq_some (loser?_pairWith hnames hs ht hexcludes.1 houtranks)
    · have hpair : pairOf s.name t.name = t.pairWith s := pairWith_comm hexcludes.1
      rw [hpair]
      exact Option.isSome_of_eq_some (loser?_pairWith hnames ht hs hexcludes.1.symm houtranks)

/-- Pairs in order are told by their members. -/
theorem rivalPairs_eq_of_mem_iff (hmem : ∀ pair, pair ∈ rivalPairs xs ↔ pair ∈ rivalPairs ys) :
    rivalPairs xs = rivalPairs ys := by
  have hpairwise (zs : List Signature) :
      (rivalPairs zs).Pairwise fun a b => pairLe a b = true ∧ a ≠ b :=
    (pairwise_exclusivePairs zs).filter _
  have hnodup (zs : List Signature) : (rivalPairs zs).Nodup := (hpairwise zs).imp And.right
  have hperm : (rivalPairs xs).Perm (rivalPairs ys) :=
    (List.perm_ext_iff_of_nodup (hnodup xs) (hnodup ys)).2 hmem
  -- the same members, both times in order: the two lists are one
  exact hperm.eq_of_pairwise (fun a b _ _ => pairLe_antisymm a b)
    ((hpairwise xs).imp And.left) ((hpairwise ys).imp And.left)

theorem rivalPairs_eq_of_redeclares (hnames : (xs.map (·.name)).Nodup)
    (hnames' : (ys.map (·.name)).Nodup) (hsame : Redeclares xs ys) :
    rivalPairs xs = rivalPairs ys := by
  apply rivalPairs_eq_of_mem_iff
  intro pair
  rw [mem_rivalPairs hnames, mem_rivalPairs hnames']
  simp only [hsame.excludes]

theorem Redeclares.nodup_names (hsame : Redeclares xs ys) (hnames : (xs.map (·.name)).Nodup) :
    (ys.map (·.name)).Nodup := by
  have hperm := hsame.definitions.map (·.name)
  rw [List.map_map, List.map_map] at hperm
  exact hperm.nodup_iff.1 hnames

/-- The correction sees which pairs exclude each other, and neither the order of the definitions
nor who declares a pair. -/
theorem correct_eq_of_redeclares (hnames : (xs.map (·.name)).Nodup) (hsame : Redeclares xs ys)
    (policy : ContainerPolicy) (s : Stats) : correct xs policy s = correct ys policy s := by
  unfold correct
  rw [deduct_eq_of_redeclares hsame, excludePairs_eq_foldl_rivalPairs,
    excludePairs_eq_foldl_rivalPairs,
    rivalPairs_eq_of_redeclares hnames (hsame.nodup_names hnames) hsame,
    excludeOne_eq_of_redeclares hnames hsame]

theorem Redeclares.of_perm (hperm : xs.Perm ys) : Redeclares xs ys := by
  refine ⟨hperm.map _, ?_⟩
  intro name other
  unfold ExcludesIn
  simp only [hperm.mem_iff]

/-! ### Who declares a pair -/

/-- The members of a pair that declare it. -/
inductive Declarer where
  | first
  | second
  | both

def Declarer.names (declarer : Declarer) (pair : String × String) : List String :=
  match declarer with
  | .first => [pair.1]
  | .second => [pair.2]
  | .both => [pair.1, pair.2]

def otherOf (pair : String × String) (name : String) : String :=
  if pair.1 = name then pair.2 else pair.1

def declared (choice : String × String → Declarer) (xs : List Signature) (name : String) :
    List String :=
  ((exclusivePairs xs).filter fun pair => ((choice pair).names pair).contains name).map
    fun pair => otherOf pair name

def declareBy (choice : String × String → Declarer) (xs : List Signature) : List Signature :=
  xs.map fun s => { s with exclusiveWith := declared choice xs s.name }

section

variable {choice : String × String → Declarer} {other : String}

theorem pairOf_comm (hne : name ≠ other) : pairOf name other = pairOf other name :=
  pairWith_comm (s := { name }) (t := { name := other }) hne

theorem otherOf_pairOf (hne : name ≠ other) : otherOf (pairOf name other) name = other := by
  unfold otherOf pairOf
  split
  · rw [if_pos rfl]
  · rw [if_neg (Ne.symm hne)]

theorem mem_names_or_mem_names (declarer : Declarer) (name other : String) :
    name ∈ declarer.names (pairOf name other) ∨ other ∈ declarer.names (pairOf name other) := by
  unfold pairOf
  cases declarer <;> split <;> simp [Declarer.names]

theorem eq_or_eq_of_mem_names {declarer : Declarer} {third : String}
    (hmem : third ∈ declarer.names (pairOf name other)) : third = name ∨ third = other := by
  unfold pairOf at hmem
  cases declarer <;> split at hmem <;> simp [Declarer.names] at hmem <;> grind

theorem mem_declared : other ∈ declared choice xs name ↔
    ∃ pair ∈ exclusivePairs xs, name ∈ (choice pair).names pair ∧ otherOf pair name = other := by
  simp only [declared, List.mem_map, List.mem_filter, List.contains_iff_mem, and_assoc]

theorem pairOf_otherOf {declarer : Declarer} (hpair : pair ∈ exclusivePairs xs)
    (hmem : name ∈ declarer.names pair) :
    otherOf pair name ≠ name ∧ pairOf name (otherOf pair name) = pair := by
  obtain ⟨s, -, third, -, hne, rfl⟩ := mem_exclusivePairs.1 hpair
  change name ∈ declarer.names (pairOf s.name third) at hmem
  change otherOf (pairOf s.name third) name ≠ name ∧
    pairOf name (otherOf (pairOf s.name third) name) = pairOf s.name third
  rcases eq_or_eq_of_mem_names hmem with rfl | rfl
  · rw [otherOf_pairOf hne.symm]
    exact ⟨hne, rfl⟩
  · rw [pairOf_comm hne.symm, otherOf_pairOf hne]
    exact ⟨hne.symm, rfl⟩

theorem pairOf_eq_pairOf {third fourth : String} (hpair : pairOf name other = pairOf third fourth) :
    (name = third ∧ other = fourth) ∨ (name = fourth ∧ other = third) := by
  unfold pairOf at hpair
  split at hpair <;> split at hpair <;> simp only [Prod.mk.injEq] at hpair <;> grind

theorem excludesIn_iff : ExcludesIn xs name other ↔
    name ≠ other ∧ (∃ s ∈ xs, s.name = name) ∧ (∃ t ∈ xs, t.name = other) ∧
      pairOf name other ∈ exclusivePairs xs := by
  constructor
  · rintro ⟨s, hs, t, ht, rfl, rfl, hexcludes⟩
    exact ⟨hexcludes.1, ⟨s, hs, rfl⟩, ⟨t, ht, rfl⟩, pairWith_mem_exclusivePairs hs ht hexcludes⟩
  · rintro ⟨hne, ⟨s, hs, rfl⟩, ⟨t, ht, rfl⟩, hpair⟩
    obtain ⟨u, hu, third, hdeclared, -, hsame⟩ := mem_exclusivePairs.1 hpair
    have hends : (u.name = s.name ∧ third = t.name) ∨ (u.name = t.name ∧ third = s.name) :=
      pairOf_eq_pairOf hsame
    rcases hends with ⟨hname, rfl⟩ | ⟨hname, rfl⟩
    · exact ⟨u, hu, t, ht, hname, rfl, hname ▸ hne, .inl hdeclared⟩
    · exact ⟨s, hs, u, hu, rfl, hname, hname ▸ hne, .inr hdeclared⟩

theorem pairOf_mem_exclusivePairs_declareBy (hname : ∃ s ∈ xs, s.name = name)
    (hother : ∃ t ∈ xs, t.name = other) (hne : name ≠ other) :
    pairOf name other ∈ exclusivePairs (declareBy choice xs) ↔
      pairOf name other ∈ exclusivePairs xs := by
  constructor
  · intro hpair
    obtain ⟨s, hs, third, hdeclared, -, hsame⟩ := mem_exclusivePairs.1 hpair
    obtain ⟨u, -, rfl⟩ := List.mem_map.1 hs
    obtain ⟨pair, hmem, hnames, rfl⟩ := mem_declared.1 hdeclared
    have hpairs : pair = pairOf name other := (pairOf_otherOf hmem hnames).2.symm.trans hsame
    rwa [← hpairs]
  · intro hpair
    rcases mem_names_or_mem_names (choice (pairOf name other)) name other with hmem | hmem
    · obtain ⟨s, hs, rfl⟩ := hname
      exact mem_exclusivePairs.2 ⟨_, List.mem_map_of_mem hs, other,
        mem_declared.2 ⟨_, hpair, hmem, otherOf_pairOf hne⟩, hne.symm, rfl⟩
    · obtain ⟨t, ht, rfl⟩ := hother
      rw [pairOf_comm hne] at hpair hmem ⊢
      exact mem_exclusivePairs.2 ⟨_, List.mem_map_of_mem ht, name,
        mem_declared.2 ⟨_, hpair, hmem, otherOf_pairOf hne.symm⟩, hne, rfl⟩

end

theorem exists_mem_declareBy (choice : String × String → Declarer) :
    (∃ s ∈ declareBy choice xs, s.name = name) ↔ ∃ s ∈ xs, s.name = name := by
  simp only [declareBy, List.mem_map, exists_exists_and_eq_and]

/-- Whichever member of a pair declares it, the same pairs are declared. -/
theorem redeclares_declareBy (choice : String × String → Declarer) (xs : List Signature) :
    Redeclares xs (declareBy choice xs) := by
  constructor
  · unfold declareBy
    rw [List.map_map]
    exact .refl _
  · intro name other
    simp only [excludesIn_iff, exists_mem_declareBy]
    refine and_congr_right fun hne => and_congr_right fun hname => and_congr_right fun hother => ?_
    exact (pairOf_mem_exclusivePairs_declareBy hname hother hne).symm

end Stats

end FormatScan
