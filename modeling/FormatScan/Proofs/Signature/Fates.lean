import FormatScan.Proofs.Json.Members
import FormatScan.Proofs.Signature.Repaired

/-!
# What becomes of the entries of a list

An entry of a list goes through several stages, and in each it may be lost: it may have no name, or
not decode, or be dropped in the repair, or give no pattern. A stage that loses it tells so, and
never tells anything of it that is against another name. So what is told while a list is loaded and
compiled can be shared out among the entries.
-/

namespace FormatScan

variable {α β γ : Type}

/-! ### Stages -/

/-- What became of a thing: what was told of it, and what is left of it if it was not lost. -/
structure Fate (α : Type) where
  warnings : List Event
  left : Option α

namespace Fate

variable {subject : Subject} {P : α → Prop} {Q : β → Prop}

def bind (f : Fate α) (g : α → Fate β) : Fate β :=
  match f.left with
  | none => ⟨f.warnings, none⟩
  | some a => ⟨f.warnings ++ (g a).warnings, (g a).left⟩

/-- A thing is not lost without a warning, and all warnings are against `subject`. -/
structure Accounts (f : Fate α) (subject : Subject) (P : α → Prop) : Prop where
  warned : f.left = none → f.warnings ≠ []
  against : ∀ w ∈ f.warnings, w.severity = .warn ∧ w.subject = subject
  left : ∀ a ∈ f.left, P a

theorem Accounts.imp {f : Fate α} {P' : α → Prop} (hf : f.Accounts subject P)
    (himp : ∀ a, P a → P' a) : f.Accounts subject P' :=
  ⟨hf.warned, hf.against, fun a ha => himp a (hf.left a ha)⟩

theorem accounts_lost {event : Event}
    (hevent : event.severity = .warn ∧ event.subject = subject) :
    (⟨[event], none⟩ : Fate α).Accounts subject P := by
  refine ⟨fun _ => List.cons_ne_nil _ _, fun w hw => ?_, fun a ha => nomatch ha⟩
  rwa [List.mem_singleton.1 hw]

/-- A thing that is accounted for in each of two stages is so in both together. -/
theorem Accounts.bind {f : Fate α} {g : α → Fate β} (hf : f.Accounts subject P)
    (hg : ∀ a, P a → (g a).Accounts subject Q) : (f.bind g).Accounts subject Q := by
  rw [Fate.bind]
  cases hleft : f.left with
  | none => exact ⟨fun _ => hf.warned hleft, hf.against, fun b hb => nomatch hb⟩
  | some a =>
      have hstage := hg a (hf.left a hleft)
      refine ⟨fun hnone => ?_, fun w hw => ?_, hstage.left⟩
      · exact List.append_ne_nil_of_right_ne_nil _ (hstage.warned hnone)
      · exact (List.mem_append.1 hw).elim (hf.against w) (hstage.against w)

/-- A stage goes on with what the stages before it left. -/
theorem filterMap_left_map_bind (fates : List (Fate α)) (g : α → Fate β) :
    (fates.map (·.bind g)).filterMap (·.left) =
      (fates.filterMap (·.left)).filterMap fun a => (g a).left := by
  induction fates with
  | nil => rfl
  | cons f rest ih =>
      rw [List.map_cons, List.filterMap_cons, List.filterMap_cons, ih, Fate.bind]
      cases f.left with
      | none => rfl
      | some a => rw [List.filterMap_cons]

/-- A stage tells of what the stages before it left, in addition to what they have told. -/
theorem flatMap_warnings_map_bind (fates : List (Fate α)) (g : α → Fate β) :
    ((fates.map (·.bind g)).flatMap (·.warnings)).Perm
      (fates.flatMap (·.warnings) ++
        (fates.filterMap (·.left)).flatMap fun a => (g a).warnings) := by
  induction fates with
  | nil => exact .nil
  | cons f rest ih =>
      rw [List.map_cons, List.flatMap_cons, List.flatMap_cons, List.filterMap_cons, Fate.bind]
      cases f.left with
      | none =>
          rw [List.append_assoc]
          exact ih.append_left _
      | some a =>
          rw [List.flatMap_cons, List.append_assoc, List.append_assoc]
          refine List.Perm.append_left _ ((ih.append_left _).trans ?_)
          exact List.perm_append_comm_assoc _ _ _

end Fate

namespace Signature

variable {s r : Signature} {entry : Json} {members : List (String × Json)} {index : Nat}
  {anchoring : Anchoring}

/-! ### The name of an entry -/

theorem name_of_decodeString {value : Json} {name : String}
    (hdecode : Json.decodeString value = .ok name) : value = .string name := by
  cases value with
  | string s => exact congrArg Json.string (Except.ok.inj hdecode)
  | _ => cases hdecode

theorem name_of_setField {field : String} {value : Json} (hset : setField r field value = .ok s) :
    if field = "name" then value = .string s.name else s.name = r.name := by
  by_cases hname : field = "name"
  · rw [if_pos hname]
    rw [hname, setField] at hset
    obtain ⟨name, hdecode, hs⟩ := bind_eq_ok.1 hset
    rw [name_of_decodeString hdecode, ← Except.ok.inj hs]
  · rw [if_neg hname]
    rw [setField.eq_def] at hset
    split at hset
    · exact absurd rfl hname
    all_goals first
      | (obtain ⟨_, -, hs⟩ := bind_eq_ok.1 hset
         rw [← Except.ok.inj hs])
      | rw [← Except.ok.inj hset]

theorem name_of_foldlM_setField_of_not_mem (hnot : "name" ∉ members.map (·.1))
    (hset : members.foldlM (fun record m => setField record m.1 m.2) r = .ok s) :
    s.name = r.name := by
  induction members generalizing r with
  | nil => rw [← Except.ok.inj hset]
  | cons m rest ih =>
      rw [List.map_cons, List.mem_cons, not_or] at hnot
      rw [List.foldlM_cons] at hset
      obtain ⟨next, hnext, hrest⟩ := bind_eq_ok.1 hset
      have hkeep := name_of_setField hnext
      rw [if_neg (Ne.symm hnot.1)] at hkeep
      rw [ih hnot.2 hrest, hkeep]

theorem name_of_foldlM_setField {value : Json} (hnodup : (members.map (·.1)).Nodup)
    (hmem : ("name", value) ∈ members)
    (hset : members.foldlM (fun record m => setField record m.1 m.2) r = .ok s) :
    value = .string s.name := by
  induction members generalizing r with
  | nil => cases hmem
  | cons m rest ih =>
      rw [List.map_cons, List.nodup_cons] at hnodup
      rw [List.foldlM_cons] at hset
      obtain ⟨next, hnext, hrest⟩ := bind_eq_ok.1 hset
      rcases List.mem_cons.1 hmem with rfl | hmem
      · have hname : value = .string next.name := by simpa using name_of_setField hnext
        rw [hname, name_of_foldlM_setField_of_not_mem hnodup.1 hrest]
      · exact ih hnodup.2 hmem hrest

theorem ofEntry_eq_ok (hentry : ofEntry index entry = .ok s) :
    ofJson entry = .ok s ∧ ∃ name, (entry.get? "name").bind Json.string? = some name := by
  rw [ofEntry] at hentry
  split at hentry
  · cases hentry
  · rename_i name hname
    split at hentry
    · rename_i decoded hdecoded
      rw [hdecoded, Except.ok.inj hentry]
      exact ⟨rfl, name, hname⟩
    · cases hentry

/-- The name that is decoded is the one that the entry was looked up for. -/
theorem name_of_ofEntry (htidy : entry.Tidy) (hentry : ofEntry index entry = .ok s) :
    (entry.get? "name").bind Json.string? = some s.name := by
  obtain ⟨hdecode, name, hname⟩ := ofEntry_eq_ok hentry
  obtain ⟨value, hget, hstring⟩ := Option.bind_eq_some_iff.1 hname
  cases entry with
  | object members =>
      -- Keys are distinct, so the name that is looked up is the one that is decoded last.
      have hknown : ("name", value) ∈ members.filter fun m => form.fields.contains m.1 :=
        List.mem_filter.2 ⟨Json.mem_of_get?_eq_some hget, rfl⟩
      have hnodup : ((members.filter fun m => form.fields.contains m.1).map (·.1)).Nodup :=
        htidy.1.nodup.sublist (List.filter_sublist.map _)
      rw [ofJson, Json.decodeRecord] at hdecode
      obtain ⟨record, hrecord, hpresent⟩ := bind_eq_ok.1 hdecode
      split at hpresent
      · cases hpresent
      · rw [hget, Option.bind_some, ← Except.ok.inj hpresent,
          name_of_foldlM_setField hnodup hknown hrecord]
        rfl
  | _ => cases hget

/-! ### Loading -/

/-- What a warning about an entry is against: its name, unless there is none that is a text, or the
entry can be decoded and its name is blank. -/
def subjectOf (entry : Json) : Subject :=
  match (entry.get? "name").bind Json.string? with
  | none => .run
  | some name =>
    if Text.isBlankText name ∧ (entrySignature? entry).isSome then .run else .signature name

/-- What an entry has left is the signature that it is decoded as, with clean fields. -/
def IsKept (entry : Json) (kept : Signature) : Prop :=
  subjectOf entry = .signature kept.name ∧
    ∃ s, entrySignature? entry = some s ∧ s.clearInvalidHex = kept

theorem accounts_of_ofEntry_eq_error {event : Event} (hentry : ofEntry index entry = .error event) :
    (⟨[event], none⟩ : Fate Signature).Accounts (subjectOf entry) (IsKept entry) := by
  have hnone : entrySignature? entry = none := by
    rw [← toOption_ofEntry index, hentry]
    rfl
  have hevent : event.severity = .warn ∧ event.subject = subjectOf entry := by
    rw [subjectOf, hnone]
    rw [ofEntry] at hentry
    cases hname : (entry.get? "name").bind Json.string? with
    | none =>
        rw [hname] at hentry
        cases hentry
        exact ⟨rfl, rfl⟩
    | some name =>
        rw [hname] at hentry
        dsimp only at hentry
        split at hentry
        · cases hentry
        · cases hentry
          exact ⟨rfl, by simp [Event.signatureWarning]⟩
  exact Fate.accounts_lost hevent

theorem subjectOf_of_ofEntry_eq_ok (htidy : entry.Tidy) (hentry : ofEntry index entry = .ok s) :
    subjectOf entry = if Text.isBlankText s.name then .run else .signature s.name := by
  have hsome : entrySignature? entry = some s := by
    rw [← toOption_ofEntry index, hentry]
    rfl
  rw [subjectOf, name_of_ofEntry htidy hentry, hsome]
  simp

theorem mem_invalidHexWarnings {w : Event} (hw : w ∈ s.invalidHexWarnings) :
    w.severity = .warn ∧ w.subject = .signature s.name := by
  have hfield (label field : String) (hw : w ∈ hexWarnings s.name label field) :
      w.severity = .warn ∧ w.subject = .signature s.name := by
    rw [hexWarnings] at hw
    split at hw
    · cases hw
    · rw [List.mem_singleton.1 hw]
      exact ⟨rfl, rfl⟩
  rw [invalidHexWarnings] at hw
  split at hw
  · exact (List.mem_append.1 hw).elim (hfield _ _) (hfield _ _)
  · cases hw

/-- A signature is dropped with a warning against its name, or against the run if that is blank. -/
theorem accounts_repair (before : List String) (s : Signature) :
    (⟨(s.repair before).2, (s.repair before).1⟩ : Fate Signature).Accounts
      (if Text.isBlankText s.name then .run else .signature s.name)
      fun kept => Text.isBlankText s.name = false ∧ s.clearInvalidHex = kept := by
  rw [repair]
  by_cases hblank : Text.isBlankText s.name = true
  · rw [if_pos hblank, if_pos hblank]
    exact Fate.accounts_lost ⟨rfl, rfl⟩
  rw [if_neg hblank, if_neg hblank]
  by_cases htaken : before.contains s.name = true
  · rw [if_pos htaken]
    exact Fate.accounts_lost ⟨rfl, rfl⟩
  rw [if_neg htaken]
  by_cases hempty : s.clearInvalidHex.isEmpty = true
  · rw [if_pos hempty]
    refine ⟨fun _ => by simp, fun w hw => ?_, fun kept hkept => ?_⟩
    · rcases List.mem_append.1 hw with hw | hw
      · exact mem_invalidHexWarnings hw
      · rw [List.mem_singleton.1 hw]
        exact ⟨rfl, rfl⟩
    · cases hkept
  · rw [if_neg hempty]
    refine ⟨fun hnone => ?_, fun w => mem_invalidHexWarnings, fun kept hkept => ?_⟩
    · cases hnone
    · exact ⟨Bool.eq_false_iff.2 hblank, Option.mem_some.1 hkept⟩

/-- What becomes of the entries of a list, the first of which has the index `index`, behind
signatures with the names `before`. -/
def loadedFates : (index : Nat) → (before : List String) → List Json → List (Fate Signature)
  | _, _, [] => []
  | index, before, entry :: rest =>
    match ofEntry index entry with
    | .error event => ⟨[event], none⟩ :: loadedFates (index + 1) before rest
    | .ok s =>
      ⟨(s.repair before).2, (s.repair before).1⟩ :: loadedFates (index + 1) (s.name :: before) rest

/-- Each entry of a list is kept or told of. -/
theorem accounts_loadedFates (index : Nat) (before : List String) {entries : List Json}
    (htidy : ∀ entry ∈ entries, entry.Tidy) :
    List.Forall₂ (fun entry fate => fate.Accounts (subjectOf entry) (IsKept entry)) entries
      (loadedFates index before entries) := by
  induction entries generalizing index before with
  | nil => exact .nil
  | cons entry rest ih =>
      have hrest : ∀ entry ∈ rest, entry.Tidy :=
        fun other h => htidy other (List.mem_cons_of_mem _ h)
      rw [loadedFates]
      cases hentry : ofEntry index entry with
      | error event => exact .cons (accounts_of_ofEntry_eq_error hentry) (ih _ _ hrest)
      | ok s =>
          refine .cons ?_ (ih _ _ hrest)
          have hsubject := subjectOf_of_ofEntry_eq_ok (htidy entry List.mem_cons_self) hentry
          obtain ⟨hwarned, hagainst, hleft⟩ := accounts_repair before s
          refine ⟨hwarned, hsubject ▸ hagainst, fun kept hkept => ?_⟩
          obtain ⟨hblank, rfl⟩ := hleft kept hkept
          rw [IsKept, hsubject, hblank, name_clearInvalidHex]
          exact ⟨rfl, s, by rw [← toOption_ofEntry index, hentry]; rfl, rfl⟩

def entryWarnings (index : Nat) (entries : List Json) : List Event :=
  (entries.zipIdx index).filterMap fun e =>
    match ofEntry e.2 e.1 with
    | .error event => some event
    | .ok _ => none

/-- Loading repairs the entries that are signatures. -/
theorem loadEntries_fst (entries : List Json) :
    (loadEntries entries).1 = keptBehind [] (entries.filterMap entrySignature?) := by
  rw [loadEntries, filterMap_toOption_ofEntries]
  rfl

theorem loadEntries_snd (entries : List Json) :
    (loadEntries entries).2 = entryWarnings 0 entries ++
      (repairAll [] (entries.filterMap entrySignature?)).flatMap (·.2) ++
        danglingEvents (loadEntries entries).1 := by
  rw [loadEntries_fst, loadEntries, filterMap_toOption_ofEntries, List.append_assoc]
  refine congrArg (· ++ _) ?_
  rw [ofEntries, List.mapIdx_eq_zipIdx_map, List.filterMap_map]
  rfl

theorem severity_of_mem_danglingEvents {xs : List Signature} {event : Event}
    (hevent : event ∈ danglingEvents xs) : event.severity = .info := by
  obtain ⟨s, -, name, -, -, rfl⟩ := mem_danglingEvents_iff.1 hevent
  rfl

/-- What is left of the entries is what loading keeps. -/
theorem filterMap_left_loadedFates (index : Nat) (before : List String) (entries : List Json) :
    (loadedFates index before entries).filterMap (·.left) =
      keptBehind before (entries.filterMap entrySignature?) := by
  induction entries generalizing index before with
  | nil => rfl
  | cons entry rest ih =>
      rw [loadedFates, List.filterMap_cons, ← toOption_ofEntry index]
      cases ofEntry index entry with
      | error event => exact ih _ _
      | ok s =>
          dsimp only [Except.toOption]
          rw [keptBehind_cons, List.filterMap_cons, ih]
          cases (s.repair before).1 <;> rfl

theorem flatMap_warnings_loadedFates (index : Nat) (before : List String) (entries : List Json) :
    ((loadedFates index before entries).flatMap (·.warnings)).Perm
      (entryWarnings index entries ++
        (repairAll before (entries.filterMap entrySignature?)).flatMap (·.2)) := by
  induction entries generalizing index before with
  | nil => exact .nil
  | cons entry rest ih =>
      rw [loadedFates, entryWarnings, List.zipIdx_cons, List.filterMap_cons, List.filterMap_cons,
        ← toOption_ofEntry index]
      cases ofEntry index entry with
      | error event => exact (ih _ _).cons _
      | ok s =>
          dsimp only [Except.toOption]
          -- The fates tell entry by entry, the list tells all decoding first.
          rw [repairAll, List.flatMap_cons, List.flatMap_cons]
          exact ((ih _ _).append_left _).trans (List.perm_append_comm_assoc _ _ _)

/-! ### Counting -/

def skipBeginnings : List String :=
  ["signature entry #", "malformed entry skipped: ", "skipping signature without a name",
    "duplicate signature name", "no usable pattern fields left"]

def isSkip (event : Event) : Bool :=
  event.severity == .warn &&
    skipBeginnings.any fun beginning => beginning.toList.isPrefixOf event.message.toList

theorem isSkip_of_message {event : Event} (beginning more : String)
    (hmem : beginning ∈ skipBeginnings) (hseverity : event.severity = .warn)
    (hmessage : event.message = beginning ++ more) : isSkip event = true := by
  rw [isSkip, hseverity, hmessage, String.toList_append, Bool.and_eq_true]
  refine ⟨rfl, List.any_eq_true.2 ⟨beginning, hmem, ?_⟩⟩
  exact List.isPrefixOf_iff_prefix.2 (List.prefix_append _ _)

theorem isSkip_of_ofEntry_eq_error {event : Event} (hentry : ofEntry index entry = .error event) :
    isSkip event = true := by
  rw [ofEntry] at hentry
  split at hentry
  · cases hentry
    exact isSkip_of_message "signature entry #" _ (by decide) rfl (String.append_assoc ..)
  · split at hentry
    · cases hentry
    · cases hentry
      exact isSkip_of_message "malformed entry skipped: " _ (by decide) rfl rfl

theorem isSkip_of_mem_invalidHexWarnings {w : Event} (hw : w ∈ s.invalidHexWarnings) :
    isSkip w = false := by
  have hfield (label field : String) (hw : w ∈ hexWarnings s.name label field) :
      isSkip w = false := by
    rw [hexWarnings] at hw
    split at hw
    · cases hw
    · rw [List.mem_singleton.1 hw, isSkip]
      simp only [Event.signatureWarning, String.toList_append, List.append_assoc]
      rfl
  rw [invalidHexWarnings] at hw
  split at hw
  · exact (List.mem_append.1 hw).elim (hfield _ _) (hfield _ _)
  · cases hw

/-- A signature is either kept or skipped with one warning. -/
theorem countP_isSkip_repair (before : List String) (s : Signature) :
    (s.repair before).1.toList.length + (s.repair before).2.countP isSkip = 1 := by
  have hhex : s.invalidHexWarnings.countP isSkip = 0 := by
    rw [List.countP_eq_zero]
    intro w hw
    rw [isSkip_of_mem_invalidHexWarnings hw]
    exact Bool.false_ne_true
  have hblank : isSkip (.runWarning "skipping signature without a name") = true :=
    isSkip_of_message "skipping signature without a name" "" (by decide) rfl rfl
  have hduplicate : isSkip (.signatureWarning s.name
      "duplicate signature name, keeping the first definition") = true :=
    isSkip_of_message "duplicate signature name" ", keeping the first definition" (by decide) rfl
      rfl
  have hempty : isSkip (.signatureWarning s.name
      "no usable pattern fields left, signature dropped") = true :=
    isSkip_of_message "no usable pattern fields left" ", signature dropped" (by decide) rfl rfl
  rw [repair]
  split_ifs
  · simp only [Option.toList_none, List.length_nil, List.countP_singleton, hblank, if_true]
  · simp only [Option.toList_none, List.length_nil, List.countP_singleton, hduplicate, if_true]
  · simp only [Option.toList_none, List.length_nil, List.countP_append, hhex,
      List.countP_singleton, hempty, if_true]
  · simp only [Option.toList_some, List.length_singleton, hhex]

/-- Of each entry there is a signature or a warning that it is skipped with. -/
theorem length_kept_add_countP_isSkip (index : Nat) (before : List String) (entries : List Json) :
    ((loadedFates index before entries).filterMap (·.left)).length +
      ((loadedFates index before entries).flatMap (·.warnings)).countP isSkip = entries.length := by
  induction entries generalizing index before with
  | nil => rfl
  | cons entry rest ih =>
      rw [loadedFates]
      cases hentry : ofEntry index entry with
      | error event =>
          have hrest := ih (index + 1) before
          rw [List.filterMap_cons_none rfl, List.flatMap_cons, List.countP_append,
            List.countP_singleton, isSkip_of_ofEntry_eq_error hentry, List.length_cons]
          rw [if_pos rfl]
          omega
      | ok s =>
          have hfirst := countP_isSkip_repair before s
          have hrest := ih (index + 1) (s.name :: before)
          rw [List.filterMap_cons, List.flatMap_cons, List.countP_append, List.length_cons]
          cases hkept : (s.repair before).1 with
          | none =>
              rw [hkept] at hfirst
              simp only [Option.toList_none, List.length_nil] at hfirst
              dsimp only
              omega
          | some kept =>
              rw [hkept] at hfirst
              simp only [Option.toList_some, List.length_cons, List.length_nil] at hfirst
              dsimp only
              rw [List.length_cons]
              omega

/-- As many signatures come out of loading as there are entries that it does not skip. -/
theorem length_loadEntries_add_countP_isSkip (entries : List Json) :
    (loadEntries entries).1.length + (loadEntries entries).2.countP isSkip = entries.length := by
  have hdangling : (danglingEvents (loadEntries entries).1).countP isSkip = 0 := by
    rw [List.countP_eq_zero]
    intro event hevent
    rw [isSkip, severity_of_mem_danglingEvents hevent]
    exact Bool.false_ne_true
  have hcount := length_kept_add_countP_isSkip 0 [] entries
  rw [filterMap_left_loadedFates, (flatMap_warnings_loadedFates 0 [] entries).countP_eq] at hcount
  rw [loadEntries_snd, List.countP_append, hdangling, loadEntries_fst]
  exact hcount

/-! ### Compiling -/

def compileFate (anchoring : Anchoring) (s : Signature) : Fate Pattern :=
  ⟨s.compileEvents anchoring, s.compile? anchoring⟩

theorem mem_ignoredEvents {w : Event} (hw : w ∈ s.ignoredEvents) :
    w.severity = .warn ∧ w.subject = .signature s.name := by
  have hfield (label field : String) (hw : w ∈ ignoredHexEvents s.name label field) :
      w.severity = .warn ∧ w.subject = .signature s.name := by
    rw [ignoredHexEvents] at hw
    split at hw
    · cases hw
    · rw [List.mem_singleton.1 hw]
      exact ⟨rfl, rfl⟩
  rw [ignoredEvents] at hw
  split at hw
  · cases hw
  · rcases List.mem_append.1 hw with hw | hw
    · exact (List.mem_append.1 hw).elim (hfield _ _) (hfield _ _)
    · split at hw
      · exact hfield _ _ hw
      · cases hw

theorem accounts_compileFate (anchoring : Anchoring) (s : Signature) :
    (compileFate anchoring s).Accounts (.signature s.name) fun p =>
      s.compile? anchoring = some p := by
  rw [compileFate, compileEvents]
  refine ⟨fun hnone => ?_, fun w hw => ?_, fun p hp => hp⟩
  · rw [if_pos (Option.isNone_iff_eq_none.2 hnone)]
    exact List.append_ne_nil_of_right_ne_nil _ (List.cons_ne_nil _ _)
  · rcases List.mem_append.1 hw with hw | hw
    · exact mem_ignoredEvents hw
    · split at hw
      · rw [List.mem_singleton.1 hw]
        exact ⟨rfl, rfl⟩
      · cases hw

end Signature

end FormatScan
