import Mathlib.Data.List.Forall2
import FormatScan.Proofs.Signature.Usable

/-!
# Repaired lists

The pass over a list goes on with the first signature of each name, in the order of the list, and
changes nothing about it but fields that are no hexadecimal. Whatever it keeps needs no repair, so
that a second pass keeps all of it, and has nothing to tell but which references have no signature.
-/

namespace FormatScan.Signature

variable {before : List String} {s kept : Signature} {xs : List Signature}

/-! ### One signature -/

/-- What becomes of a field of a signature: only bytes that cannot be decoded are cleared. -/
inductive FieldRepair (kind : SignatureKind) (field : String) : String → Prop where
  | cleared (hkind : kind = .binary) (hinvalid : ¬∃ bytes, Text.Hex.decode field = .ok bytes) :
    FieldRepair kind field ""
  | same (hvalid : kind = .binary → ∃ bytes, Text.Hex.decode field = .ok bytes) :
    FieldRepair kind field field

/-- `kept` is `s` but for its fields in hexadecimal. -/
structure IsRepairOf (kept s : Signature) : Prop where
  head : FieldRepair s.kind s.head kept.head
  tail : FieldRepair s.kind s.tail kept.tail
  rest : kept = { s with head := kept.head, tail := kept.tail }

/-- There is nothing about the signature that the pass would drop it for or change. -/
structure IsRepaired (s : Signature) : Prop where
  named : Text.isBlankText s.name = false
  set : s.isEmpty = false
  decodes : s.FieldsDecode

theorem fieldRepair_clearHex (field : String) : FieldRepair .binary field (clearHex field) := by
  rw [clearHex]
  cases hdecode : Text.Hex.decode field with
  | ok bytes => exact .same fun _ => ⟨bytes, hdecode⟩
  | error e =>
      refine .cleared rfl ?_
      rintro ⟨bytes, hbytes⟩
      rw [hdecode] at hbytes
      cases hbytes

theorem isRepairOf_clearInvalidHex (s : Signature) : s.clearInvalidHex.IsRepairOf s := by
  obtain ⟨name, kind, head, tail⟩ := s
  cases kind with
  | binary => exact ⟨fieldRepair_clearHex head, fieldRepair_clearHex tail, rfl⟩
  | text => exact ⟨.same (nomatch ·), .same (nomatch ·), rfl⟩

theorem clearInvalidHex_of_fieldsDecode (hdecodes : s.FieldsDecode) : s.clearInvalidHex = s := by
  obtain ⟨name, kind, head, tail⟩ := s
  cases kind with
  | text => rfl
  | binary =>
      obtain ⟨⟨headBytes, hhead⟩, tailBytes, htail⟩ := hdecodes rfl
      change Text.Hex.decode head = _ at hhead
      change Text.Hex.decode tail = _ at htail
      simp only [clearInvalidHex, clearHex, hhead, htail]

/-- What it takes for a signature to be kept behind others. -/
theorem isSome_repair_iff : (s.repair before).1.isSome = true ↔
    Text.isBlankText s.name = false ∧ s.name ∉ before ∧ s.clearInvalidHex.isEmpty = false := by
  rw [Option.isSome_iff_exists]
  simp only [repair_eq_some_iff, exists_and_left, exists_eq', and_true]

theorem isRepaired_of_repair (hkept : (s.repair before).1 = some kept) : kept.IsRepaired := by
  obtain ⟨hblank, -, hset, rfl⟩ := repair_eq_some_iff.1 hkept
  refine ⟨?_, hset, fieldsDecode_clearInvalidHex s⟩
  rwa [name_clearInvalidHex]

theorem IsRepaired.repair (hrepaired : s.IsRepaired) (hnew : s.name ∉ before) :
    (s.repair before).1 = some s := by
  have hclear := clearInvalidHex_of_fieldsDecode hrepaired.decodes
  refine repair_eq_some_iff.2 ⟨hrepaired.named, hnew, ?_, hclear⟩
  rw [hclear]
  exact hrepaired.set

theorem invalidHexWarnings_of_fieldsDecode (h : s.FieldsDecode) : s.invalidHexWarnings = [] := by
  rw [invalidHexWarnings]
  cases hkind : s.kind with
  | text => rfl
  | binary =>
      obtain ⟨⟨head, hhead⟩, tail, htail⟩ := h hkind
      simp only [hexWarnings, hhead, htail, List.append_nil]

theorem repair_snd_eq_nil (hkept : (s.repair before).1 = some s) : (s.repair before).2 = [] := by
  obtain ⟨hblank, htaken, hempty, hclear⟩ := repair_eq_some_iff.1 hkept
  have hdecodes : s.FieldsDecode := hclear ▸ fieldsDecode_clearInvalidHex s
  rw [Signature.repair, hblank, List.contains_eq_mem, decide_eq_false htaken, hempty]
  exact invalidHexWarnings_of_fieldsDecode hdecodes

/-! ### Where the kept signatures come from -/

/-- The signatures of a list that something is kept of, as they are in the list. -/
def sourcesBehind (before : List String) : List Signature → List Signature
  | [] => []
  | s :: rest =>
    (if (s.repair before).1.isSome then [s] else []) ++ sourcesBehind (s.name :: before) rest

theorem keptBehind_eq_map (before : List String) (xs : List Signature) :
    keptBehind before xs = (sourcesBehind before xs).map clearInvalidHex := by
  induction xs generalizing before with
  | nil => rfl
  | cons s rest ih =>
      rw [keptBehind_cons, sourcesBehind, List.map_append, ih]
      congr 1
      cases hkept : (s.repair before).1 with
      | none => rfl
      | some kept =>
          obtain ⟨-, -, -, rfl⟩ := repair_eq_some_iff.1 hkept
          rfl

theorem sourcesBehind_sublist (before : List String) (xs : List Signature) :
    (sourcesBehind before xs).Sublist xs := by
  induction xs generalizing before with
  | nil => exact .slnil
  | cons s rest ih =>
      rw [sourcesBehind]
      split
      · exact (ih _).cons_cons s
      · exact (ih _).cons s

theorem mem_sourcesBehind_cons {first : Signature} :
    s ∈ sourcesBehind before (first :: xs) ↔
      s = first ∧ (s.repair before).1.isSome = true ∨
        s ∈ sourcesBehind (first.name :: before) xs := by
  rw [sourcesBehind, List.mem_append]
  apply or_congr_left
  split
  · rename_i hkept
    rw [List.mem_singleton]
    constructor
    · rintro rfl
      exact ⟨rfl, hkept⟩
    · exact And.left
  · rename_i hdropped
    refine iff_of_false List.not_mem_nil ?_
    rintro ⟨rfl, hkept⟩
    exact hdropped hkept

/-- Of several signatures with one name the first is the source. -/
theorem mem_sourcesBehind_iff : s ∈ sourcesBehind before xs ↔
    (s.repair before).1.isSome = true ∧ xs.find? (·.name = s.name) = some s := by
  induction xs generalizing before with
  | nil => simp [sourcesBehind]
  | cons first rest ih =>
      rw [mem_sourcesBehind_cons, ih, List.find?_cons]
      by_cases hsame : first.name = s.name
      · -- Behind `first` the name is taken.
        have htaken : ¬(s.repair (first.name :: before)).1.isSome = true := by
          rw [isSome_repair_iff, hsame]
          exact fun hkept => hkept.2.1 List.mem_cons_self
        rw [decide_eq_true hsame, or_iff_left fun hkept => htaken hkept.1, Option.some.injEq,
          and_comm, eq_comm (a := s)]
      · have hother : ¬(s = first ∧ (s.repair before).1.isSome = true) := by
          rintro ⟨rfl, -⟩
          exact hsame rfl
        rw [decide_eq_false hsame, or_iff_right hother, isSome_repair_iff, isSome_repair_iff,
          List.mem_cons, or_iff_right (Ne.symm hsame)]

/-- No name is kept twice. -/
theorem nodup_names_keptBehind (before : List String) (xs : List Signature) :
    ((keptBehind before xs).map (·.name)).Nodup := by
  induction xs generalizing before with
  | nil => exact List.nodup_nil
  | cons s rest ih =>
      rw [keptBehind_cons]
      cases hkept : (s.repair before).1 with
      | none => exact ih _
      | some kept =>
          obtain ⟨-, -, -, rfl⟩ := repair_eq_some_iff.1 hkept
          rw [Option.toList_some, List.singleton_append, List.map_cons, List.nodup_cons,
            name_clearInvalidHex]
          refine ⟨fun hmem => ?_, ih _⟩
          obtain ⟨other, hother, hname⟩ := List.mem_map.1 hmem
          apply (mem_names_of_mem_keptBehind hother).2
          rw [hname]
          exact List.mem_cons_self

theorem isRepaired_of_mem_keptBehind (hs : s ∈ keptBehind before xs) : s.IsRepaired := by
  rw [keptBehind_eq_map] at hs
  obtain ⟨source, hsource, rfl⟩ := List.mem_map.1 hs
  obtain ⟨kept, hkept⟩ := Option.isSome_iff_exists.1 (mem_sourcesBehind_iff.1 hsource).1
  obtain ⟨-, -, -, rfl⟩ := repair_eq_some_iff.1 hkept
  exact isRepaired_of_repair hkept

/-! ### The second pass -/

theorem names_new_behind (hdistinct : ((s :: xs).map (·.name)).Nodup)
    (hnew : ∀ other ∈ s :: xs, other.name ∉ before) :
    ∀ other ∈ xs, other.name ∉ s.name :: before := by
  rw [List.map_cons, List.nodup_cons] at hdistinct
  intro other hother htaken
  rcases List.mem_cons.1 htaken with hsame | hbefore
  · exact hdistinct.1 (hsame ▸ List.mem_map_of_mem hother)
  · exact hnew other (List.mem_cons_of_mem s hother) hbefore

/-- A second repair changes nothing. -/
theorem keptBehind_eq_self (hrepaired : ∀ s ∈ xs, s.IsRepaired)
    (hdistinct : (xs.map (·.name)).Nodup) (hnew : ∀ s ∈ xs, s.name ∉ before) :
    keptBehind before xs = xs := by
  induction xs generalizing before with
  | nil => rfl
  | cons s rest ih =>
      have hfirst := (hrepaired s List.mem_cons_self).repair (hnew s List.mem_cons_self)
      have hrest := ih (fun other hother => hrepaired other (List.mem_cons_of_mem s hother))
        (List.nodup_cons.1 hdistinct).2 (names_new_behind hdistinct hnew)
      rw [keptBehind_cons, hfirst, hrest, Option.toList_some, List.singleton_append]

/-- Nothing is told of signatures that are all kept as they are. -/
theorem repairAll_flatMap_snd (hfixed : keptBehind before xs = xs) :
    (repairAll before xs).flatMap (·.2) = [] := by
  induction xs generalizing before with
  | nil => rfl
  | cons s rest ih =>
      rw [keptBehind_cons] at hfixed
      rw [repairAll, List.flatMap_cons]
      cases hkept : (s.repair before).1 with
      | none =>
          -- A dropped signature of this name cannot be kept further on, behind itself.
          rw [hkept, Option.toList_none, List.nil_append] at hfixed
          have hmem : s ∈ keptBehind (s.name :: before) rest := hfixed ▸ List.mem_cons_self
          exact absurd List.mem_cons_self (mem_names_of_mem_keptBehind hmem).2
      | some kept =>
          rw [hkept, Option.toList_some, List.singleton_append, List.cons.injEq] at hfixed
          obtain ⟨rfl, hrest⟩ := hfixed
          rw [repair_snd_eq_nil hkept, ih hrest, List.append_nil]

theorem sanitize_of_fixed (hfixed : (sanitize xs).1 = xs) :
    sanitize xs = (xs, danglingEvents xs) := by
  have hevents : (sanitize xs).2 =
      (repairAll [] xs).flatMap (·.2) ++ danglingEvents (sanitize xs).1 := rfl
  rw [repairAll_flatMap_snd hfixed, List.nil_append, hfixed] at hevents
  exact Prod.ext hfixed hevents

/-- Each reference to an unknown name is told of once for each signature that has it. -/
theorem mem_danglingEvents_iff {event : Event} : event ∈ danglingEvents xs ↔
    ∃ s ∈ xs, ∃ name ∈ s.references, name ∉ xs.map (·.name) ∧
      event = ⟨.info, .signature s.name, "references unknown signature " ++ name⟩ := by
  simp only [danglingEvents, List.mem_flatMap, List.mem_map, List.mem_filter, Bool.not_eq_true',
    List.contains_eq_mem, decide_eq_false_iff_not, and_assoc, eq_comm (b := event)]

/-- The pass over a list. It goes on with the first signature of each name that is not blank, unless
there is nothing left of it, and keeps it but for fields that cannot be decoded. What it keeps is
repaired for good: a second pass keeps all of it, and tells of nothing but the references to names
that no signature has. -/
theorem sanitize_repairs (xs : List Signature) :
    (∃ sources, sources.Sublist xs ∧
      (∀ s, s ∈ sources ↔ Text.isBlankText s.name = false ∧ s.clearInvalidHex.isEmpty = false ∧
        xs.find? (·.name = s.name) = some s) ∧
      List.Forall₂ IsRepairOf (sanitize xs).1 sources) ∧
    ((sanitize xs).1.map (·.name)).Nodup ∧
    (∀ s ∈ (sanitize xs).1, s.IsRepaired) ∧
    sanitize (sanitize xs).1 = ((sanitize xs).1, danglingEvents (sanitize xs).1) ∧
    ∀ event, event ∈ danglingEvents (sanitize xs).1 ↔
      ∃ s ∈ (sanitize xs).1, ∃ name ∈ s.references, name ∉ (sanitize xs).1.map (·.name) ∧
        event = ⟨.info, .signature s.name, "references unknown signature " ++ name⟩ := by
  have hrepaired : ∀ s ∈ (sanitize xs).1, s.IsRepaired := fun s => isRepaired_of_mem_keptBehind
  have hdistinct : ((sanitize xs).1.map (·.name)).Nodup := nodup_names_keptBehind [] xs
  refine ⟨⟨sourcesBehind [] xs, sourcesBehind_sublist [] xs, fun s => ?_, ?_⟩, hdistinct,
    hrepaired, ?_, fun event => mem_danglingEvents_iff⟩
  · rw [mem_sourcesBehind_iff, isSome_repair_iff, and_assoc, and_assoc,
      and_iff_right List.not_mem_nil]
  · rw [sanitize_eq_keptBehind, keptBehind_eq_map, List.forall₂_map_left_iff, List.forall₂_same]
    exact fun s _ => isRepairOf_clearInvalidHex s
  · apply sanitize_of_fixed
    rw [sanitize_eq_keptBehind]
    exact keptBehind_eq_self hrepaired hdistinct fun s _ => List.not_mem_nil

end FormatScan.Signature
