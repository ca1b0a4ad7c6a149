import FormatScan.Proofs.Json.Members
import FormatScan.Proofs.Json.RoundTrip
import FormatScan.Proofs.Signature.Repaired

/-!
# Signatures that were written

A signature is written as an object with one member a field, and read back field by field. A field
that is left out has its default value. So a list of signatures that needs no repair comes back from
its text as it was, and all that is told about it are its references to names that no signature has.
-/

namespace FormatScan.Signature

variable {s r : Signature} {xs : List Signature} {entry : Json}

/-! ### Fields -/

inductive Field where
  | name
  | kind
  | head
  | tail
  | pattern
  | extensions
  | deductFrom
  | priority
  | minFileSize
  | exclusiveWith
deriving DecidableEq

namespace Field

def key : Field → String
  | name => "name"
  | kind => "type"
  | head => "hex_head"
  | tail => "hex_tail"
  | pattern => "pattern"
  | extensions => "extensions"
  | deductFrom => "deduct_from"
  | priority => "priority"
  | minFileSize => "min_file_size"
  | exclusiveWith => "exclusive_with"

def valueOf (s : Signature) : Field → Json
  | name => .string s.name
  | kind => .string s.kind.name
  | head => .string s.head
  | tail => .string s.tail
  | pattern => .string s.pattern
  | extensions => textsJson s.extensions
  | deductFrom => s.deductFrom.elim .null .string
  | priority => intJson s.priority.toInt
  | minFileSize => .nat s.minFileSize.toNat
  | exclusiveWith => textsJson s.exclusiveWith

def Agree (r s : Signature) : Field → Prop
  | name => r.name = s.name
  | kind => r.kind = s.kind
  | head => r.head = s.head
  | tail => r.tail = s.tail
  | pattern => r.pattern = s.pattern
  | extensions => r.extensions = s.extensions
  | deductFrom => r.deductFrom = s.deductFrom
  | priority => r.priority = s.priority
  | minFileSize => r.minFileSize = s.minFileSize
  | exclusiveWith => r.exclusiveWith = s.exclusiveWith

/-- `r` with a field of `s`. -/
def copy (r s : Signature) : Field → Signature
  | name => { r with name := s.name }
  | kind => { r with kind := s.kind }
  | head => { r with head := s.head }
  | tail => { r with tail := s.tail }
  | pattern => { r with pattern := s.pattern }
  | extensions => { r with extensions := s.extensions }
  | deductFrom => { r with deductFrom := s.deductFrom }
  | priority => { r with priority := s.priority }
  | minFileSize => { r with minFileSize := s.minFileSize }
  | exclusiveWith => { r with exclusiveWith := s.exclusiveWith }

/-- Copying a field makes it agree, and no other field disagree. -/
theorem agree_copy (f : Field) {g : Field} (hg : g = f ∨ g.Agree r s) :
    g.Agree (f.copy r s) s := by
  rcases hg with rfl | hg
  · cases g <;> rfl
  · cases f <;> cases g <;> first | exact hg | rfl

theorem key_mem_form (f : Field) : form.fields.contains f.key = true := by
  cases f <;> decide

/-- No two fields are written under one name. -/
theorem key_injective {f g : Field} (hkey : f.key = g.key) : f = g := by
  cases f <;> cases g <;> first | rfl | simp [key] at hkey

end Field

theorem eq_of_forall_agree (h : ∀ f, Field.Agree r s f) : r = s := by
  cases r
  cases s
  simp only [mk.injEq]
  exact ⟨h .name, h .kind, h .head, h .tail, h .pattern, h .extensions, h .deductFrom, h .priority,
    h .minFileSize, h .exclusiveWith⟩

/-! ### Values of fields -/

theorem exact_intJson {n : Int} (hn : Int32.minValue.toInt ≤ n ∧ n ≤ Int32.maxValue.toInt) :
    (intJson n).Exact := by
  have hmin : Int32.minValue.toInt = -2147483648 := rfl
  have hmax : Int32.maxValue.toInt = 2147483647 := rfl
  rw [hmin, hmax] at hn
  rw [intJson]
  split
  · rename_i hneg
    refine ⟨hneg, ?_⟩
    have : UInt64.size / 2 = 9223372036854775808 := rfl
    omega
  · have : Json.maxNat = 18446744073709551615 := rfl
    change n.toNat ≤ Json.maxNat
    omega

theorem decodeInt32_intJson {n : Int}
    (hn : Int32.minValue.toInt ≤ n ∧ n ≤ Int32.maxValue.toInt) :
    Json.decodeInt32 (intJson n) = .ok n := by
  rw [intJson]
  split
  · exact if_pos hn
  · rename_i hnonneg
    have hcast : ((n.toNat : Nat) : Int) = n := Int.toNat_of_nonneg (Int.not_lt.1 hnonneg)
    change (if _ ≤ ((n.toNat : Nat) : Int) ∧ ((n.toNat : Nat) : Int) ≤ _ then _ else _) = _
    rw [hcast]
    exact if_pos hn

theorem decodeNat64_nat {n : Nat} (hn : n < UInt64.size) : Json.decodeNat64 (.nat n) = .ok n := by
  have hbounds : (0 : Int) ≤ (n : Int) ∧ (n : Int) ≤ Int.ofNat (UInt64.size - 1) :=
    ⟨Int.natCast_nonneg n, Int.ofNat_le.2 (Nat.le_sub_one_of_lt hn)⟩
  rw [Json.decodeNat64, Json.decodeInt]
  dsimp only
  rw [if_pos hbounds]
  rfl

theorem decodeList_textsJson (texts : List String) :
    Json.decodeList Json.decodeString (textsJson texts) = .ok texts := by
  change (texts.map Json.string).mapM Json.decodeString = _
  induction texts with
  | nil => rfl
  | cons text texts ih =>
      rw [List.map_cons, List.mapM_cons, ih]
      rfl

/-- A field that is written is read back. -/
theorem setField_valueOf (f : Field) (r s : Signature) :
    setField r f.key (f.valueOf s) = .ok (f.copy r s) := by
  cases f with
  | name => rfl
  | kind =>
      have hkind : Json.decodeVariant SignatureKind.known (.string s.kind.name) = .ok s.kind := by
        cases s.kind <;> rfl
      rw [Field.key, Field.valueOf, setField, hkind]
      rfl
  | head => rfl
  | tail => rfl
  | pattern => rfl
  | extensions =>
      rw [Field.key, Field.valueOf, setField, decodeList_textsJson]
      rfl
  | deductFrom =>
      have hparent : Json.decodeOption Json.decodeString (s.deductFrom.elim .null .string) =
          .ok s.deductFrom := by
        cases s.deductFrom <;> rfl
      rw [Field.key, Field.valueOf, setField, hparent]
      rfl
  | priority =>
      rw [Field.key, Field.valueOf, setField,
        decodeInt32_intJson ⟨s.priority.minValue_le_toInt, s.priority.toInt_le⟩, ok_bind,
        Int32.ofInt_toInt]
      rfl
  | minFileSize =>
      rw [Field.key, Field.valueOf, setField, decodeNat64_nat s.minFileSize.toNat_lt_size, ok_bind,
        UInt64.ofNat_toNat]
      rfl
  | exclusiveWith =>
      rw [Field.key, Field.valueOf, setField, decodeList_textsJson]
      rfl

theorem exact_valueOf (f : Field) (s : Signature) : (f.valueOf s).Exact := by
  have htexts (texts : List String) : (textsJson texts).Exact := by
    apply Json.exactAll_iff.2
    intro item hitem
    obtain ⟨text, -, rfl⟩ := List.mem_map.1 hitem
    exact trivial
  cases f with
  | extensions => exact htexts _
  | exclusiveWith => exact htexts _
  | deductFrom =>
      rw [Field.valueOf]
      cases s.deductFrom <;> exact trivial
  | priority => exact exact_intJson ⟨s.priority.minValue_le_toInt, s.priority.toInt_le⟩
  | minFileSize => exact Nat.le_sub_one_of_lt s.minFileSize.toNat_lt_size
  | _ => exact trivial

theorem levels_valueOf (f : Field) (s : Signature) : (f.valueOf s).levels ≤ 1 := by
  have htexts (texts : List String) : (textsJson texts).levels ≤ 1 := by
    apply Nat.succ_le_succ
    apply Json.levelsAll_le_iff.2
    intro item hitem
    obtain ⟨text, -, rfl⟩ := List.mem_map.1 hitem
    exact Nat.le_refl 0
  cases f with
  | extensions => exact htexts _
  | exclusiveWith => exact htexts _
  | deductFrom =>
      rw [Field.valueOf]
      cases s.deductFrom <;> exact Nat.zero_le 1
  | priority =>
      rw [Field.valueOf, intJson]
      split <;> exact Nat.zero_le 1
  | _ => exact Nat.zero_le 1

theorem ordered_valueOf (f : Field) (s : Signature) : (f.valueOf s).ordered = f.valueOf s := by
  have htexts (texts : List String) : (textsJson texts).ordered = textsJson texts := by
    rw [textsJson, Json.ordered, Json.orderedAll_eq_map, List.map_map]
    rfl
  cases f with
  | extensions => exact htexts _
  | exclusiveWith => exact htexts _
  | deductFrom =>
      rw [Field.valueOf]
      cases s.deductFrom <;> rfl
  | priority =>
      rw [Field.valueOf, intJson]
      split <;> rfl
  | _ => rfl

/-! ### Objects -/

/-- The members come from the fields of `s`, and in the fields that are missing `s` is as `r`. -/
structure Describes (members : List (String × Json)) (r s : Signature) : Prop where
  exists_field : ∀ m ∈ members, ∃ f : Field, m = (f.key, f.valueOf s)
  mem_or_agree : ∀ f : Field, (f.key, f.valueOf s) ∈ members ∨ f.Agree r s

theorem foldlM_setField {members : List (String × Json)} (h : Describes members r s) :
    members.foldlM (fun record m => setField record m.1 m.2) r = .ok s := by
  -- A field agrees with that of `s` already, or its member is still to come.
  induction members generalizing r with
  | nil =>
      have hall (f : Field) : f.Agree r s := (h.mem_or_agree f).resolve_left List.not_mem_nil
      rw [eq_of_forall_agree hall]
      rfl
  | cons m rest ih =>
      obtain ⟨f, rfl⟩ := h.exists_field m List.mem_cons_self
      rw [List.foldlM_cons, setField_valueOf, ok_bind]
      refine ih ⟨fun m hm => h.exists_field m (List.mem_cons_of_mem _ hm), fun g => ?_⟩
      rcases h.mem_or_agree g with hmem | hagree
      · rcases List.mem_cons.1 hmem with hfirst | hrest
        · exact .inr (f.agree_copy (.inl (Field.key_injective (congrArg Prod.fst hfirst))))
        · exact .inl hrest
      · exact .inr (f.agree_copy (.inr hagree))

def unset : Signature := { name := "" }

theorem ofJson_of_describes {members : List (String × Json)} (h : Describes members unset s)
    (hname : "name" ∈ members.map (·.1)) : ofJson (.object members) = .ok s := by
  have hknown : members.filter (fun m => form.fields.contains m.1) = members := by
    apply List.filter_eq_self.2
    intro m hm
    obtain ⟨f, rfl⟩ := h.exists_field m hm
    exact f.key_mem_form
  have hmissing : form.missing? (members.map (·.1)) = none := by
    apply List.find?_eq_none.2
    intro name hrequired
    rw [List.mem_singleton.1 hrequired, List.contains_iff_mem.2 hname]
    exact Bool.false_ne_true
  have hread := foldlM_setField h
  rw [unset] at hread
  rw [ofJson, Json.decodeRecord, hknown, hmissing, hread]
  rfl

theorem get?_name_of_describes {members : List (String × Json)} (h : Describes members r s)
    (hname : "name" ∈ members.map (·.1)) :
    Json.get? "name" (.object members) = some (.string s.name) := by
  rw [Json.get?]
  cases hfind : members.find? (·.1 = "name") with
  | none =>
      obtain ⟨m, hm, hkey⟩ := List.mem_map.1 hname
      exact absurd (decide_eq_true hkey) (List.find?_eq_none.1 hfind m hm)
  | some m =>
      obtain ⟨f, rfl⟩ := h.exists_field m (List.mem_of_find?_eq_some hfind)
      have hkey : f.key = "name" := by simpa using List.find?_some hfind
      rw [Field.key_injective (g := .name) hkey]
      rfl

/-- Members that describe a signature are read as it. -/
theorem ofEntry_of_describes {members : List (String × Json)} (h : Describes members unset s)
    (hname : "name" ∈ members.map (·.1)) (index : Nat) :
    ofEntry index (.object members) = .ok s := by
  rw [ofEntry, get?_name_of_describes h hname, Option.bind_some, Json.string?,
    ofJson_of_describes h hname]

/-! ### Entries -/

def fields (s : Signature) : List Field :=
  [.name, .kind, .head, .tail, .pattern, .extensions] ++
    (if s.deductFrom.isSome then [.deductFrom] else []) ++ [.priority, .minFileSize, .exclusiveWith]

def members (s : Signature) : List (String × Json) := s.fields.map fun f => (f.key, f.valueOf s)

theorem toJson_eq_object (s : Signature) : s.toJson = .object s.members := by
  rw [toJson, members, fields]
  cases hparent : s.deductFrom with
  | none => rfl
  | some parent =>
      simp only [List.map_append, List.map_cons, List.map_nil, Field.valueOf, hparent]
      rfl

/-- An object in place of the one that a signature is written as. It lacks no members but such as
have the default value of their field, and not the name. -/
def Abridges (entry : Json) (s : Signature) : Prop :=
  ∃ members kept defaults, s.toJson = .object members ∧ unset.toJson = .object defaults ∧
    entry = .object kept ∧ kept.Sublist members ∧
    ∀ m ∈ members, m ∉ kept → m.1 ≠ "name" ∧ m ∈ defaults

/-- What a signature is written as abridges it, with nothing left out. -/
theorem abridges_toJson (s : Signature) : Abridges s.toJson s :=
  ⟨s.members, s.members, unset.members, toJson_eq_object s, toJson_eq_object unset,
    toJson_eq_object s, List.Sublist.refl _, fun _ hm hnot => absurd hm hnot⟩

theorem abridges_iff : Abridges entry s ↔ ∃ kept, entry = .object kept ∧
    kept.Sublist s.members ∧ ∀ m ∈ s.members, m ∉ kept → m.1 ≠ "name" ∧ m ∈ unset.members := by
  rw [Abridges, toJson_eq_object, toJson_eq_object]
  constructor
  · rintro ⟨_, kept, _, hmembers, hdefaults, hkept⟩
    cases hmembers
    cases hdefaults
    exact ⟨kept, hkept⟩
  · rintro ⟨kept, hkept⟩
    exact ⟨_, kept, _, rfl, rfl, hkept⟩

theorem nodup_fields (s : Signature) : s.fields.Nodup := by
  rw [fields]
  split <;> decide

theorem nodup_names_members (s : Signature) : (s.members.map (·.1)).Nodup := by
  rw [members, List.map_map]
  exact List.Pairwise.map _ (fun f g hne hkey => hne (Field.key_injective hkey)) s.nodup_fields

theorem exists_field_of_mem_members {m : String × Json} (hm : m ∈ s.members) :
    ∃ f : Field, m = (f.key, f.valueOf s) := by
  obtain ⟨f, -, rfl⟩ := List.mem_map.1 hm
  exact ⟨f, rfl⟩

theorem agree_of_valueOf_eq {f : Field} (hvalue : f.valueOf r = f.valueOf s) : f.Agree r s := by
  -- Setting the field to the one value gives it that of `r` as well as that of `s`.
  have hset := setField_valueOf f unset r
  rw [hvalue, setField_valueOf f unset s, Except.ok.injEq] at hset
  have hr : f.Agree (f.copy unset s) r := hset ▸ f.agree_copy (.inl rfl)
  have hs : f.Agree (f.copy unset s) s := f.agree_copy (.inl rfl)
  cases f <;> exact hr.symm.trans hs

theorem agree_of_not_mem_fields {f : Field} (hf : f ∉ s.fields) : f.Agree unset s := by
  cases hparent : s.deductFrom with
  | none =>
      cases f with
      | deductFrom => exact hparent.symm
      | _ => exact absurd (by simp [fields]) hf
  | some parent => exact absurd (by cases f <;> simp [fields, hparent]) hf

theorem describes_of_sublist {kept : List (String × Json)} (hkept : kept.Sublist s.members)
    (hmissing : ∀ m ∈ s.members, m ∉ kept → m.1 ≠ "name" ∧ m ∈ unset.members) :
    Describes kept unset s := by
  refine ⟨fun m hm => exists_field_of_mem_members (hkept.subset hm), fun f => ?_⟩
  by_cases hfield : f ∈ s.fields
  · refine or_iff_not_imp_left.2 fun hnot => ?_
    have hwritten : (f.key, f.valueOf s) ∈ s.members := List.mem_map_of_mem hfield
    obtain ⟨g, hg⟩ := exists_field_of_mem_members (hmissing _ hwritten hnot).2
    obtain ⟨hkey, hvalue⟩ := Prod.mk.inj hg
    rw [← Field.key_injective hkey] at hvalue
    exact agree_of_valueOf_eq hvalue.symm
  · exact .inr (agree_of_not_mem_fields hfield)

theorem name_mem_of_sublist {kept : List (String × Json)}
    (hmissing : ∀ m ∈ s.members, m ∉ kept → m.1 ≠ "name" ∧ m ∈ unset.members) :
    "name" ∈ kept.map (·.1) := by
  have hwritten : ("name", Json.string s.name) ∈ s.members := List.mem_cons_self
  by_cases hmem : ("name", Json.string s.name) ∈ kept
  · exact List.mem_map_of_mem hmem
  · exact absurd rfl (hmissing _ hwritten hmem).1

/-- Reading puts the members in order, which changes nothing about what they describe. -/
theorem describes_inOrder {kept : List (String × Json)} (h : Describes kept r s)
    (hnodup : (kept.map (·.1)).Nodup) : Describes (Json.inOrder kept) r s := by
  refine ⟨fun m hm => h.exists_field m (Json.mem_of_mem_inOrder hm), fun f => ?_⟩
  refine (h.mem_or_agree f).imp_left fun hmem => ?_
  exact Json.mem_of_get?_eq_some (Json.get?_ofMembers hnodup hmem)

theorem ordered_object_of_describes {kept : List (String × Json)} (h : Describes kept r s) :
    (Json.object kept).ordered = .object (Json.inOrder kept) := by
  have hvalues : kept.map (fun m => (m.1, m.2.ordered)) = kept := by
    apply (List.map_congr_left ?_).trans (List.map_id kept)
    intro m hm
    obtain ⟨f, rfl⟩ := h.exists_field m hm
    rw [ordered_valueOf]
    rfl
  rw [Json.ordered, Json.orderedMembers_eq_map, hvalues, Json.ofMembers_eq]

theorem ofEntry_ordered (h : Abridges entry s) (index : Nat) :
    ofEntry index entry.ordered = .ok s := by
  obtain ⟨kept, rfl, hkept, hmissing⟩ := abridges_iff.1 h
  have hdescribes := describes_of_sublist hkept hmissing
  have hnodup : (kept.map (·.1)).Nodup := s.nodup_names_members.sublist (hkept.map _)
  have hname : "name" ∈ (Json.inOrder kept).map (·.1) := by
    obtain ⟨m, hm, hkey⟩ := List.mem_map.1 (name_mem_of_sublist hmissing)
    exact List.mem_map.2 ⟨m, Json.mem_of_get?_eq_some (Json.get?_ofMembers hnodup hm), hkey⟩
  rw [ordered_object_of_describes hdescribes]
  exact ofEntry_of_describes (describes_inOrder hdescribes hnodup) hname index

theorem exact_of_abridges (h : Abridges entry s) : entry.Exact := by
  obtain ⟨kept, rfl, hkept, -⟩ := abridges_iff.1 h
  apply Json.exactMembers_iff.2
  intro m hm
  obtain ⟨f, rfl⟩ := exists_field_of_mem_members (hkept.subset hm)
  exact exact_valueOf f s

theorem levels_of_abridges (h : Abridges entry s) : entry.levels ≤ 2 := by
  obtain ⟨kept, rfl, hkept, -⟩ := abridges_iff.1 h
  apply Nat.succ_le_succ
  apply Json.levelsMembers_le_iff.2
  intro m hm
  obtain ⟨f, rfl⟩ := exists_field_of_mem_members (hkept.subset hm)
  exact levels_valueOf f s

/-! ### Lists -/

theorem mapIdx_eq_map_ok {entries : List Json} {Gives : Json → Signature → Prop}
    {f : Nat → Json → Except Event Signature}
    (hf : ∀ index entry s, Gives entry s → f index entry = .ok s)
    (h : List.Forall₂ Gives entries xs) : entries.mapIdx f = xs.map .ok := by
  induction h generalizing f with
  | nil => rfl
  | cons hentry hrest ih =>
      rw [List.mapIdx_cons, List.map_cons, hf 0 _ _ hentry,
        ih fun index entry s => hf (index + 1) entry s]

/-- Entries are loaded as the signatures they abridge, repaired. -/
theorem loadEntries_ordered {entries : List Json} (h : List.Forall₂ Abridges entries xs) :
    loadEntries (entries.map Json.ordered) = sanitize xs := by
  have hdecoded : ofEntries (entries.map Json.ordered) = xs.map .ok := by
    have hentries : List.Forall₂ (fun entry s => ∀ index, ofEntry index entry = .ok s)
        (entries.map Json.ordered) xs :=
      List.forall₂_map_left_iff.2 (h.imp fun _ _ => ofEntry_ordered)
    exact mapIdx_eq_map_ok (fun index _ _ hentry => hentry index) hentries
  have hsignatures : (xs.map (Except.ok : Signature → Except Event Signature)).filterMap
      Except.toOption = xs := by
    rw [List.filterMap_map]
    exact List.filterMap_some
  rw [loadEntries, hdecoded, hsignatures, List.filterMap_map, List.filterMap_eq_nil_iff.2]
  · rfl
  · exact fun s _ => rfl

/-- A text of entries is read as the signatures they abridge, if those need no repair. -/
theorem parse_of_abridges {text : String} {entries : List Json} (hfixed : (sanitize xs).1 = xs)
    (hentries : List.Forall₂ Abridges entries xs)
    (hread : Json.parse text = .ok (Json.array entries).ordered) :
    parse text = .ok (xs, danglingEvents xs) := by
  rw [Json.ordered, Json.orderedAll_eq_map] at hread
  rw [parse, hread]
  exact congrArg Except.ok ((loadEntries_ordered hentries).trans (sanitize_of_fixed hfixed))

theorem exact_array_of_abridges {entries : List Json}
    (hentries : List.Forall₂ Abridges entries xs) :
    (Json.array entries).Exact ∧ (Json.array entries).levels < Json.maxDepth := by
  have hentry : ∀ entry ∈ entries, entry.Exact ∧ entry.levels ≤ 2 := by
    have hboth : List.Forall₂ (fun entry s => (entry.Exact ∧ entry.levels ≤ 2) ∧ Abridges entry s)
        entries xs :=
      hentries.imp fun _ _ h => ⟨⟨exact_of_abridges h, levels_of_abridges h⟩, h⟩
    exact ((List.forall₂_and_left entries xs).1 hboth).1
  constructor
  · exact Json.exactAll_iff.2 fun entry hmem => (hentry entry hmem).1
  · have hlevels := Json.levelsAll_le_iff.2 fun entry hmem => (hentry entry hmem).2
    rw [Json.levels]
    exact Nat.lt_of_le_of_lt (Nat.succ_le_succ hlevels) (by decide)

/-- A list of signatures that needs no repair comes back from its text, also if the text lacks
fields that have their default value. Nothing is told but which references have no signature. -/
theorem parse_render_toJson (hfixed : (sanitize xs).1 = xs) :
    parse (Json.array (xs.map toJson)).render = .ok (xs, danglingEvents xs) ∧
      (∀ entries, List.Forall₂ Abridges entries xs →
        parse (Json.array entries).render = .ok (xs, danglingEvents xs)) ∧
      ∀ event ∈ danglingEvents xs, ∃ s ∈ xs, ∃ name ∈ s.references, name ∉ xs.map (·.name) ∧
        event = ⟨.info, .signature s.name, "references unknown signature " ++ name⟩ := by
  have hparse (entries : List Json) (hentries : List.Forall₂ Abridges entries xs) :
      parse (Json.array entries).render = .ok (xs, danglingEvents xs) := by
    obtain ⟨hexact, hlevels⟩ := exact_array_of_abridges hentries
    exact parse_of_abridges hfixed hentries (Json.parse_render hexact hlevels)
  refine ⟨hparse _ ?_, hparse, fun event => mem_danglingEvents_iff.1⟩
  exact List.forall₂_map_left_iff.2 (List.forall₂_same.2 fun s _ => abridges_toJson s)

def oddMarker : Signature where
  name := "\"Å\"\n\x01"
  kind := .text
  pattern := "a\\\\b"
  deductFrom := some "gone"
  priority := -2147483648
  minFileSize := 18446744073709551615
  exclusiveWith := ["ZIP"]

def shortArchive : Json := .object [("name", .string "ZIP"), ("hex_head", .string "504B0304")]

theorem abridges_shortArchive : Abridges shortArchive (binary "ZIP" "504B0304") := by
  have hmembers : (binary "ZIP" "504B0304").members =
      [("name", .string "ZIP"), ("type", .string "binary"), ("hex_head", .string "504B0304"),
        ("hex_tail", .string ""), ("pattern", .string ""), ("extensions", .array []),
        ("priority", .nat 0), ("min_file_size", .nat 0), ("exclusive_with", .array [])] := rfl
  have hdefaults : unset.members =
      [("name", .string ""), ("type", .string "binary"), ("hex_head", .string ""),
        ("hex_tail", .string ""), ("pattern", .string ""), ("extensions", .array []),
        ("priority", .nat 0), ("min_file_size", .nat 0), ("exclusive_with", .array [])] := rfl
  refine abridges_iff.2 ⟨_, rfl, ?_, ?_⟩
  · rw [hmembers]
    exact .cons_cons _ (.cons _ (.cons_cons _ (List.nil_sublist _)))
  · rw [hmembers, hdefaults]
    simp

/-- An odd marker, and an archive whose text is as long as it needs to be. -/
theorem parse_render_toJson_samples :
    (sanitize [oddMarker, binary "ZIP" "504B0304"]).1 = [oddMarker, binary "ZIP" "504B0304"] ∧
      parse (Json.array [oddMarker.toJson, shortArchive]).render =
        .ok ([oddMarker, binary "ZIP" "504B0304"],
          [⟨.info, .signature oddMarker.name, "references unknown signature gone"⟩]) := by
  have hfixed : (sanitize [oddMarker, binary "ZIP" "504B0304"]).1 =
      [oddMarker, binary "ZIP" "504B0304"] := by
    decide +kernel
  have hevents : danglingEvents [oddMarker, binary "ZIP" "504B0304"] =
      [⟨.info, .signature oddMarker.name, "references unknown signature gone"⟩] := by
    decide +kernel
  refine ⟨hfixed, ?_⟩
  rw [← hevents]
  exact (parse_render_toJson hfixed).2.1 _
    (.cons (abridges_toJson oddMarker) (.cons abridges_shortArchive .nil))

end FormatScan.Signature
