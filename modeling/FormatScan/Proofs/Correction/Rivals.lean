import FormatScan.Correction
import FormatScan.Proofs.Counts.Lookup

/-!
# Who goes when two formats exclude each other

Of two formats that exclude each other one outranks the other, and the turn of their pair drops the
other one if both are still there. That is all that the turn of any pair can do.
-/

namespace FormatScan

namespace Signature

variable {s t : Signature}

def Excludes (s t : Signature) : Prop :=
  s.name ≠ t.name ∧ (t.name ∈ s.exclusiveWith ∨ s.name ∈ t.exclusiveWith)

/-- The greater priority goes first, and the lesser name where the priorities are the same. -/
def Outranks (s t : Signature) : Prop :=
  t.priority < s.priority ∨ (t.priority = s.priority ∧ s.name < t.name)

instance (s t : Signature) : Decidable (s.Excludes t) :=
  inferInstanceAs (Decidable (s.name ≠ t.name ∧
    (t.name ∈ s.exclusiveWith ∨ s.name ∈ t.exclusiveWith)))

instance (s t : Signature) : Decidable (s.Outranks t) :=
  inferInstanceAs (Decidable (t.priority < s.priority ∨
    (t.priority = s.priority ∧ s.name < t.name)))

theorem Excludes.symm (hexcludes : s.Excludes t) : t.Excludes s :=
  ⟨Ne.symm hexcludes.1, hexcludes.2.symm⟩

theorem name_lt_or_lt (hne : s.name ≠ t.name) : s.name < t.name ∨ t.name < s.name := by
  by_cases hlt : s.name < t.name
  · exact Or.inl hlt
  · by_cases hgt : t.name < s.name
    · exact Or.inr hgt
    · exact absurd (String.le_antisymm (String.not_lt.1 hgt) (String.not_lt.1 hlt)) hne

theorem outranks_or_outranks (hne : s.name ≠ t.name) : s.Outranks t ∨ t.Outranks s := by
  unfold Outranks
  rcases Int32.lt_or_le s.priority t.priority with hlt | hle
  · exact Or.inr (Or.inl hlt)
  · rcases Int32.lt_or_eq_of_le hle with hlt | heq
    · exact Or.inl (Or.inl hlt)
    · rcases name_lt_or_lt hne with hname | hname
      · exact Or.inl (Or.inr ⟨heq, hname⟩)
      · exact Or.inr (Or.inr ⟨heq.symm, hname⟩)

def pairWith (s t : Signature) : String × String :=
  if s.name < t.name then (s.name, t.name) else (t.name, s.name)

/-- A pair does not tell which of its members declares it. -/
theorem pairWith_comm (hne : s.name ≠ t.name) : s.pairWith t = t.pairWith s := by
  rcases name_lt_or_lt hne with hlt | hlt
  · rw [pairWith, if_pos hlt, pairWith, if_neg (String.lt_asymm hlt)]
  · rw [pairWith, if_neg (String.lt_asymm hlt), pairWith, if_pos hlt]

end Signature

namespace Stats

open Signature

variable {signatures : List Signature} {s t : Signature} {st : Stats} {pair : String × String}

/-- A pair is declared by one of its members, under the name of another one. -/
theorem mem_exclusivePairs :
    pair ∈ exclusivePairs signatures ↔
      ∃ s ∈ signatures, ∃ other ∈ s.exclusiveWith, other ≠ s.name ∧
        (if s.name < other then (s.name, other) else (other, s.name)) = pair := by
  simp only [exclusivePairs, List.mem_eraseDups, List.mem_mergeSort, List.mem_flatMap,
    List.mem_map, List.mem_filter, decide_eq_true_eq, and_assoc]

theorem pairWith_mem_exclusivePairs (hs : s ∈ signatures) (ht : t ∈ signatures)
    (hexcludes : s.Excludes t) : s.pairWith t ∈ exclusivePairs signatures := by
  obtain ⟨hne, hdeclared | hdeclared⟩ := hexcludes
  · exact mem_exclusivePairs.2 ⟨s, hs, t.name, hdeclared, Ne.symm hne, rfl⟩
  · rw [pairWith_comm hne]
    exact mem_exclusivePairs.2 ⟨t, ht, s.name, hdeclared, hne, rfl⟩

/-- Where the names are distinct, the priority of a name is that of its definition. -/
theorem priority?_of_mem (hnames : (signatures.map (·.name)).Nodup) (hs : s ∈ signatures) :
    priority? signatures s.name = some s.priority := by
  have hreverse : (signatures.reverse.map (·.name)).Nodup := by
    rwa [List.map_reverse, List.nodup_reverse]
  have hfind : signatures.reverse.find? (·.name = s.name) = some s :=
    (find?_eq_some_iff_of_nodup hreverse).2 ⟨List.mem_reverse.2 hs, rfl⟩
  rw [priority?, hfind]
  rfl

theorem exists_of_priority? {name : String} {p : Int32}
    (hpriority : priority? signatures name = some p) : ∃ s ∈ signatures, s.name = name := by
  obtain ⟨s, hfind, -⟩ := Option.map_eq_some_iff.1 hpriority
  exact ⟨s, List.mem_reverse.1 (List.mem_of_find?_eq_some hfind), by
    simpa using List.find?_some hfind⟩

def drop (st : Stats) (name : String) : Stats := { st with counts := st.counts.erase name }

theorem count_drop (st : Stats) (name other : String) :
    (st.drop name).count other = if name = other then 0 else st.count other :=
  Counts.count_erase st.counts name other

theorem eq_or_eq_of_loser? {name : String} (hloser : loser? signatures pair = some name) :
    name = pair.1 ∨ name = pair.2 := by
  simp only [loser?, Option.bind_eq_bind, Option.bind_eq_some_iff, Option.pure_def,
    Option.some.injEq] at hloser
  obtain ⟨first, -, second, -, hname⟩ := hloser
  split at hname
  · exact Or.inl hname.symm
  · exact Or.inr hname.symm

/-- A turn changes nothing, or it drops a name of the pair. -/
theorem excludeOne_eq_or_drop (signatures : List Signature) (st : Stats) (pair : String × String) :
    excludeOne signatures st pair = st ∨
      ∃ name, (name = pair.1 ∨ name = pair.2) ∧ excludeOne signatures st pair = st.drop name := by
  unfold excludeOne
  split
  · cases hloser : loser? signatures pair with
    | none => exact Or.inl rfl
    | some name => exact Or.inr ⟨name, eq_or_eq_of_loser? hloser, rfl⟩
  · exact Or.inl rfl

theorem loser?_pairWith (hnames : (signatures.map (·.name)).Nodup) (hs : s ∈ signatures)
    (ht : t ∈ signatures) (hne : s.name ≠ t.name) (houtranks : s.Outranks t) :
    loser? signatures (s.pairWith t) = some t.name := by
  rcases name_lt_or_lt hne with hlt | hlt
  · have hnot : ¬s.priority < t.priority := by
      rcases houtranks with hpriority | ⟨heq, -⟩
      · exact Int32.lt_asymm hpriority
      · rw [heq]
        exact Int32.lt_irrefl
    simp [loser?, pairWith, hlt, priority?_of_mem hnames hs, priority?_of_mem hnames ht, hnot]
  · have hpriority : t.priority < s.priority := by
      rcases houtranks with hpriority | ⟨-, hname⟩
      · exact hpriority
      · exact absurd hname (String.lt_asymm hlt)
    simp [loser?, pairWith, String.lt_asymm hlt, priority?_of_mem hnames hs,
      priority?_of_mem hnames ht, hpriority]

theorem excludeOne_pairWith (hnames : (signatures.map (·.name)).Nodup) (hs : s ∈ signatures)
    (ht : t ∈ signatures) (hne : s.name ≠ t.name) (houtranks : s.Outranks t) (st : Stats) :
    excludeOne signatures st (s.pairWith t) =
      if st.isPresent s.name = true ∧ st.isPresent t.name = true then st.drop t.name else st := by
  have hboth : (st.isPresent (s.pairWith t).1 && st.isPresent (s.pairWith t).2) =
      (st.isPresent s.name && st.isPresent t.name) := by
    unfold pairWith
    split
    · rfl
    · exact Bool.and_comm _ _
  rw [excludeOne, hboth, loser?_pairWith hnames hs ht hne houtranks]
  simp only [Bool.and_eq_true, drop]

/-- There is no loser where one of the names has no definition. -/
theorem loser?_eq_none {name other : String} (hother : priority? signatures other = none) :
    loser? signatures (name, other) = none ∧ loser? signatures (other, name) = none := by
  constructor
  · cases hname : priority? signatures name <;> simp [loser?, hother, hname]
  · simp [loser?, hother]

/-- A pair is one of rivals, or a name of it is not defined and its turn changes nothing. -/
theorem exists_rivals_or_excludeOne_eq (hpair : pair ∈ exclusivePairs signatures) :
    (∃ s ∈ signatures, ∃ t ∈ signatures, s.Excludes t ∧ s.Outranks t ∧ pair = s.pairWith t) ∨
      ∀ st, excludeOne signatures st pair = st := by
  obtain ⟨s, hs, other, hdeclared, hne, hpair⟩ := mem_exclusivePairs.1 hpair
  cases hother : priority? signatures other with
  | none =>
      right
      intro st
      have hloser : loser? signatures pair = none := by
        rw [← hpair]
        split
        · exact (loser?_eq_none hother).1
        · exact (loser?_eq_none hother).2
      rw [excludeOne, hloser]
      exact ite_self st
  | some p =>
      left
      obtain ⟨t, ht, hname⟩ := exists_of_priority? hother
      have hexcludes : s.Excludes t := ⟨hname ▸ Ne.symm hne, Or.inl (hname ▸ hdeclared)⟩
      have hsame : pair = s.pairWith t := by rw [← hpair, ← hname, pairWith]
      rcases outranks_or_outranks hexcludes.1 with houtranks | houtranks
      · exact ⟨s, hs, t, ht, hexcludes, houtranks, hsame⟩
      · exact ⟨t, ht, s, hs, hexcludes.symm, houtranks, hsame.trans (pairWith_comm hexcludes.1)⟩

end Stats

end FormatScan
