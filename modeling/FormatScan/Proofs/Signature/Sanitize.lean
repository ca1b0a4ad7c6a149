import FormatScan.Signature.Load

/-!
# What an unusable signature costs

A signature that is of no use on its own is dropped wherever it stands in a list. Its name counts as
taken all the same: the next signature of this name, which may be a good one, is dropped as a
duplicate. Nothing else is lost.
-/

namespace FormatScan.Signature

variable {before before' : List String} {name : String} {e s : Signature} {xs ys : List Signature}

def keptBehind (before : List String) (signatures : List Signature) : List Signature :=
  (repairAll before signatures).filterMap (·.1)

theorem sanitize_eq_keptBehind (xs : List Signature) : (sanitize xs).1 = keptBehind [] xs := rfl

/-! ### One signature -/

theorem name_clearInvalidHex (s : Signature) : s.clearInvalidHex.name = s.name := by
  rw [clearInvalidHex]
  split <;> rfl

/-- A signature is kept if it has a name that is new and a field that is left after repair. -/
theorem repair_eq_some_iff {kept : Signature} :
    (s.repair before).1 = some kept ↔ Text.isBlankText s.name = false ∧ s.name ∉ before ∧
      s.clearInvalidHex.isEmpty = false ∧ s.clearInvalidHex = kept := by
  rw [repair]
  by_cases hblank : Text.isBlankText s.name = true
  · simp [hblank]
  · by_cases htaken : s.name ∈ before
    · simp [hblank, htaken]
    · by_cases hempty : s.clearInvalidHex.isEmpty = true
      · simp [hblank, htaken, hempty]
      · simp [hblank, htaken, hempty]

theorem keptBehind_cons (before : List String) (s : Signature) (rest : List Signature) :
    keptBehind before (s :: rest) =
      (s.repair before).1.toList ++ keptBehind (s.name :: before) rest := by
  rw [keptBehind, repairAll, List.filterMap_cons]
  cases (s.repair before).1 <;> rfl

/-- What stands behind a list is repaired as behind the names of the list, be they kept or not. -/
theorem keptBehind_append (before : List String) (xs ys : List Signature) :
    keptBehind before (xs ++ ys) =
      keptBehind before xs ++ keptBehind ((xs.map (·.name)).reverse ++ before) ys := by
  induction xs generalizing before with
  | nil => rfl
  | cons s rest ih =>
      rw [List.cons_append, keptBehind_cons, keptBehind_cons, ih, List.append_assoc, List.map_cons,
        List.reverse_cons, List.append_assoc, List.singleton_append]

theorem mem_names_of_mem_keptBehind (hs : s ∈ keptBehind before xs) :
    s.name ∈ xs.map (·.name) ∧ s.name ∉ before := by
  induction xs generalizing before with
  | nil => cases hs
  | cons first rest ih =>
      rw [keptBehind_cons, List.mem_append, Option.mem_toList] at hs
      rcases hs with hfirst | hrest
      · obtain ⟨-, htaken, -, rfl⟩ := repair_eq_some_iff.1 hfirst
        rw [name_clearInvalidHex]
        exact ⟨List.mem_cons_self, htaken⟩
      · obtain ⟨hmem, htaken⟩ := ih hrest
        exact ⟨List.mem_cons_of_mem _ hmem, fun h => htaken (List.mem_cons_of_mem _ h)⟩

theorem repair_of_mem_iff (hbefore : ∀ other, other ∈ before' ↔ other = name ∨ other ∈ before) :
    (s.repair before').1.toList = (s.repair before).1.toList.filter (·.name ≠ name) := by
  cases hkept : (s.repair before).1 with
  | none =>
      cases hkept' : (s.repair before').1 with
      | none => rfl
      | some kept =>
          obtain ⟨hblank, htaken, hempty, hclear⟩ := repair_eq_some_iff.1 hkept'
          have hfree : s.name ∉ before := fun h => htaken ((hbefore _).2 (.inr h))
          rw [repair_eq_some_iff.2 ⟨hblank, hfree, hempty, hclear⟩] at hkept
          cases hkept
  | some kept =>
      obtain ⟨hblank, htaken, hempty, rfl⟩ := repair_eq_some_iff.1 hkept
      have hname := s.name_clearInvalidHex
      by_cases hsame : s.name = name
      · have hnone : (s.repair before').1 = none := by
          rw [Option.eq_none_iff_forall_ne_some]
          intro kept hkept'
          exact (repair_eq_some_iff.1 hkept').2.1 ((hbefore _).2 (.inl hsame))
        simp [hnone, hname, hsame]
      · have hfree : s.name ∉ before' := fun h => ((hbefore _).1 h).elim hsame htaken
        rw [repair_eq_some_iff.2 ⟨hblank, hfree, hempty, rfl⟩]
        simp [hname, hsame]

/-- Another name in front costs the signatures of that name and no others. -/
theorem keptBehind_of_mem_iff
    (hbefore : ∀ other, other ∈ before' ↔ other = name ∨ other ∈ before) (ys : List Signature) :
    keptBehind before' ys = (keptBehind before ys).filter (·.name ≠ name) := by
  -- The induction is on the list, and the names in front grow alike on both sides.
  induction ys generalizing before before' with
  | nil => rfl
  | cons s rest ih =>
      have hrest : keptBehind (s.name :: before') rest =
          (keptBehind (s.name :: before) rest).filter (·.name ≠ name) := by
        apply ih
        intro other
        rw [List.mem_cons, List.mem_cons, hbefore]
        exact or_left_comm
      rw [keptBehind_cons, keptBehind_cons, repair_of_mem_iff hbefore, hrest, List.filter_append]

/-! ### Lists -/

/-- What is of no use alone is of no use behind others. -/
theorem repair_eq_none_of_unusable (hunusable : (sanitize [e]).1 = []) (before : List String) :
    (e.repair before).1 = none := by
  rw [sanitize_eq_keptBehind, keptBehind_cons, List.append_eq_nil_iff] at hunusable
  rw [Option.eq_none_iff_forall_ne_some]
  intro kept hkept
  obtain ⟨hblank, -, hempty, hclear⟩ := repair_eq_some_iff.1 hkept
  rw [repair_eq_some_iff.2 ⟨hblank, List.not_mem_nil, hempty, hclear⟩] at hunusable
  cases hunusable.1

/-- What is kept beside an unusable signature behind `xs`, of what is kept without it. -/
def beside (e : Signature) (xs kept : List Signature) : List Signature :=
  if e.name ∈ xs.map (·.name) then kept else kept.filter (·.name ≠ e.name)

/-- An unusable signature costs the later ones of its name, as its name has been seen. -/
theorem sanitize_append_cons (hunusable : (sanitize [e]).1 = []) (xs ys : List Signature) :
    (sanitize (xs ++ e :: ys)).1 = beside e xs (sanitize (xs ++ ys)).1 := by
  have hys : keptBehind (e.name :: (xs.map (·.name)).reverse) ys =
      (keptBehind (xs.map (·.name)).reverse ys).filter (·.name ≠ e.name) :=
    keptBehind_of_mem_iff (fun other => List.mem_cons) ys
  rw [sanitize_eq_keptBehind, sanitize_eq_keptBehind, keptBehind_append, keptBehind_append,
    keptBehind_cons, repair_eq_none_of_unusable hunusable, Option.toList_none, List.nil_append,
    List.append_nil, hys, beside]
  split
  · rename_i htaken
    rw [List.filter_eq_self.2]
    intro s hs
    rw [decide_eq_true_iff]
    intro hsame
    apply (mem_names_of_mem_keptBehind hs).2
    rwa [hsame, List.mem_reverse]
  · rename_i hfree
    have hxs : (keptBehind [] xs).filter (·.name ≠ e.name) = keptBehind [] xs := by
      rw [List.filter_eq_self]
      intro s hs
      rw [decide_eq_true_iff]
      intro hsame
      exact hfree (hsame ▸ (mem_names_of_mem_keptBehind hs).1)
    rw [List.filter_append, hxs]

theorem beside_eq_self_iff {kept : List Signature} :
    beside e xs kept = kept ↔ e.name ∈ xs.map (·.name) ∨ e.name ∉ kept.map (·.name) := by
  rw [beside]
  split
  · rename_i htaken
    exact iff_of_true rfl (.inl htaken)
  · rename_i hfree
    rw [List.filter_eq_self]
    simp only [hfree, false_or, List.mem_map, decide_eq_true_iff]
    constructor
    · rintro hall ⟨s, hs, hname⟩
      exact hall s hs hname
    · intro hnone s hs hname
      exact hnone ⟨s, hs, hname⟩

/-! ### Entries of a JSON list -/

def entrySignature? (entry : Json) : Option Signature := (ofEntry 0 entry).toOption

theorem toOption_ofEntry (index : Nat) (entry : Json) :
    (ofEntry index entry).toOption = entrySignature? entry := by
  rw [entrySignature?, ofEntry, ofEntry]
  cases (entry.get? "name").bind Json.string? with
  | none => rfl
  | some name => cases ofJson entry <;> rfl

theorem filterMap_toOption_ofEntries (entries : List Json) :
    (ofEntries entries).filterMap Except.toOption = entries.filterMap entrySignature? := by
  have hindexed : entries.filterMap entrySignature? =
      entries.zipIdx.filterMap (entrySignature? ∘ Prod.fst) := by
    rw [← List.filterMap_map, List.zipIdx_map_fst]
  rw [ofEntries, List.mapIdx_eq_zipIdx_map, List.filterMap_map, hindexed]
  congr 1
  funext ⟨entry, index⟩
  exact toOption_ofEntry index entry

/-- What is read from a text is what its entries are repaired to. -/
theorem parse_fst {text : String} {entries : List Json}
    (hread : Json.parse text = .ok (.array entries)) :
    (parse text).map Prod.fst = .ok (sanitize (entries.filterMap entrySignature?)).1 := by
  rw [parse, hread]
  simp only [Except.map, loadEntries, filterMap_toOption_ofEntries]

/-- What is kept beside an entry is what is kept without it, but for the next signature of the name
that an unusable signature takes. -/
theorem parse_fst_beside {text text' : String} {es fs : List Json} {x : Json}
    (hread : Json.parse text = .ok (.array (es ++ x :: fs)))
    (hread' : Json.parse text' = .ok (.array (es ++ fs)))
    (hunusable : ∀ e ∈ entrySignature? x, (sanitize [e]).1 = []) :
    ∃ kept kept', (parse text).map Prod.fst = .ok kept ∧
      (parse text').map Prod.fst = .ok kept' ∧
      kept = (entrySignature? x).elim kept'
        fun e => beside e (es.filterMap entrySignature?) kept' := by
  refine ⟨_, _, parse_fst hread, parse_fst hread', ?_⟩
  rw [List.filterMap_append, List.filterMap_append, List.filterMap_cons]
  cases hx : entrySignature? x with
  | none => rfl
  | some e =>
      rw [Option.elim_some]
      exact sanitize_append_cons (hunusable e hx) _ _

/-- A signature that is of no use on its own costs the next one of its name, in a list as well as
among the entries of a JSON list. It costs nothing but itself exactly if its name is not new or
nothing of its name is kept without it; an entry that cannot be decoded costs itself alone. -/
theorem unusable_costs_itself_iff (e : Signature) (xs ys : List Signature) (text text' : String)
    (es fs : List Json) (x : Json) :
    ((sanitize [e]).1 = [] →
      (sanitize (xs ++ e :: ys)).1 = beside e xs (sanitize (xs ++ ys)).1 ∧
      ((sanitize (xs ++ e :: ys)).1 = (sanitize (xs ++ ys)).1 ↔
        e.name ∈ xs.map (·.name) ∨ e.name ∉ (sanitize (xs ++ ys)).1.map (·.name))) ∧
    (Json.parse text = .ok (.array (es ++ x :: fs)) →
      Json.parse text' = .ok (.array (es ++ fs)) →
      (∀ e ∈ entrySignature? x, (sanitize [e]).1 = []) →
      ∃ kept kept', (parse text).map Prod.fst = .ok kept ∧
        (parse text').map Prod.fst = .ok kept' ∧
        kept = (entrySignature? x).elim kept'
          (fun e => beside e (es.filterMap entrySignature?) kept') ∧
        (kept = kept' ↔ ∀ e ∈ entrySignature? x,
          e.name ∈ (es.filterMap entrySignature?).map (·.name) ∨
            e.name ∉ kept'.map (·.name))) := by
  constructor
  · intro hunusable
    have hbeside := sanitize_append_cons hunusable xs ys
    refine ⟨hbeside, ?_⟩
    rw [hbeside]
    exact beside_eq_self_iff
  · intro hread hread' hunusable
    obtain ⟨kept, kept', hkept, hkept', hbeside⟩ := parse_fst_beside hread hread' hunusable
    refine ⟨kept, kept', hkept, hkept', hbeside, ?_⟩
    rw [hbeside]
    cases entrySignature? x with
    | none => exact iff_of_true rfl fun e he => nomatch he
    | some e =>
        rw [Option.elim_some, beside_eq_self_iff]
        constructor
        · intro hfree e' he
          rwa [← Option.mem_some.1 he]
        · exact fun hall => hall e rfl

def oddArchive : Json := .object [("hex_head", .string "504"), ("name", .string "ZIP")]

def archive : Json := .object [("hex_head", .string "504B0304"), ("name", .string "ZIP")]

def archivesText : String :=
  "[\x7b\"name\":\"ZIP\",\"hex_head\":\"504\"\x7d," ++
    "\x7b\"name\":\"ZIP\",\"hex_head\":\"504B0304\"\x7d]"

def archiveText : String := "[\x7b\"name\":\"ZIP\",\"hex_head\":\"504B0304\"\x7d]"

theorem parse_archivesText : Json.parse archivesText = .ok (.array [oddArchive, archive]) := rfl

theorem parse_archiveText : Json.parse archiveText = .ok (.array [archive]) := rfl

theorem entrySignature?_oddArchive : entrySignature? oddArchive = some (binary "ZIP" "504") := rfl

/-- An archive of three digits in front of a good one, in a list and in a JSON list. -/
theorem unusable_costs_itself_iff_archive :
    (sanitize [binary "ZIP" "504"]).1 = [] ∧
      ((sanitize ([] ++ binary "ZIP" "504" :: [binary "ZIP" "504B0304"])).1 =
          (sanitize ([] ++ [binary "ZIP" "504B0304"])).1 ↔
        "ZIP" ∈ ([] : List Signature).map (·.name) ∨
          "ZIP" ∉ (sanitize ([] ++ [binary "ZIP" "504B0304"])).1.map (·.name)) ∧
      ∃ kept kept', (parse archivesText).map Prod.fst = .ok kept ∧
        (parse archiveText).map Prod.fst = .ok kept' ∧
        kept = (entrySignature? oddArchive).elim kept'
          (fun e => beside e (([] : List Json).filterMap entrySignature?) kept') ∧
        (kept = kept' ↔ ∀ e ∈ entrySignature? oddArchive,
          e.name ∈ (([] : List Json).filterMap entrySignature?).map (·.name) ∨
            e.name ∉ kept'.map (·.name)) := by
  have hunusable : (sanitize [binary "ZIP" "504"]).1 = [] := by decide +kernel
  have hentry : ∀ e ∈ entrySignature? oddArchive, (sanitize [e]).1 = [] := by
    intro e he
    rw [entrySignature?_oddArchive, Option.mem_some] at he
    rwa [← he]
  obtain ⟨hlist, hjson⟩ := unusable_costs_itself_iff (binary "ZIP" "504") []
    [binary "ZIP" "504B0304"] archivesText archiveText [] [archive] oddArchive
  exact ⟨hunusable, (hlist hunusable).2, hjson parse_archivesText parse_archiveText hentry⟩

/-- Nothing is left of a good archive behind one of three digits. -/
theorem archive_lost_behind_unusable :
    (sanitize [binary "ZIP" "504"]).1 = [] ∧
      (sanitize [binary "ZIP" "504B0304"]).1 = [binary "ZIP" "504B0304"] ∧
      (sanitize [binary "ZIP" "504", binary "ZIP" "504B0304"]).1 = [] ∧
      (parse archiveText).map Prod.fst = .ok [binary "ZIP" "504B0304"] ∧
      (parse archivesText).map Prod.fst = .ok [] := by
  refine ⟨by decide +kernel, by decide +kernel, by decide +kernel, ?_, ?_⟩
  · exact (parse_fst parse_archiveText).trans (congrArg _ (by decide +kernel))
  · exact (parse_fst parse_archivesText).trans (congrArg _ (by decide +kernel))

end FormatScan.Signature
