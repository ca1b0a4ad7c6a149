import FormatScan.Proofs.Signature.Repaired

/-!
# Patterns of repaired lists

What cannot be decoded is taken for not set in two places, by the pass that repairs a list and by
the one that makes patterns of it. They agree, so that the repair of a list costs no pattern and
changes none; and behind the repair there is nothing for the second pass to ignore.
-/

namespace FormatScan.Signature

variable {anchoring : Anchoring} {before : List String} {s : Signature} {xs : List Signature}

/-- Clearing a field changes nothing for the pattern, which would not have come from it. -/
theorem hexExpression?_clearHex (field : String) :
    hexExpression? (clearHex field) = hexExpression? field := by
  rw [clearHex]
  cases hdecode : Text.Hex.decode field with
  | ok bytes => rfl
  | error e =>
      rw [hexExpression?, hexExpression?, hdecode]
      rfl

/-- A repaired signature has the pattern that it had. -/
theorem compile?_clearInvalidHex (anchoring : Anchoring) (s : Signature) :
    s.clearInvalidHex.compile? anchoring = s.compile? anchoring := by
  obtain ⟨name, kind, head, tail⟩ := s
  cases kind with
  | text => rfl
  | binary =>
      simp only [clearInvalidHex, compile?, expression?, binaryExpression?, markerExpression?,
        hexExpression?_clearHex]
      rfl

/-- The repair drops nothing that would give a pattern. -/
theorem compile?_of_isEmpty (hempty : s.clearInvalidHex.isEmpty = true) :
    s.compile? anchoring = none := by
  rw [← compile?_clearInvalidHex, compile?_eq_none_iff anchoring (fieldsDecode_clearInvalidHex s)]
  simp only [isEmpty, Bool.and_eq_true, beq_iff_eq] at hempty
  obtain ⟨⟨hhead, htail⟩, hpattern⟩ := hempty
  refine ⟨hpattern, fun _ => ?_⟩
  rw [hhead, htail]
  exact ⟨rfl, rfl⟩

theorem filterMap_compile?_repair (anchoring : Anchoring)
    (hnamed : Text.isBlankText s.name = false) (hnew : s.name ∉ before) :
    (s.repair before).1.toList.filterMap (compile? anchoring) = (s.compile? anchoring).toList := by
  by_cases hempty : s.clearInvalidHex.isEmpty = true
  · have hdropped : (s.repair before).1 = none := by
      rw [Option.eq_none_iff_forall_ne_some]
      intro kept hkept
      rw [(repair_eq_some_iff.1 hkept).2.2.1] at hempty
      cases hempty
    rw [hdropped, compile?_of_isEmpty hempty]
    rfl
  · have hkept : (s.repair before).1 = some s.clearInvalidHex :=
      repair_eq_some_iff.2 ⟨hnamed, hnew, Bool.eq_false_iff.2 hempty, rfl⟩
    rw [hkept, Option.toList_some, List.filterMap_cons, compile?_clearInvalidHex]
    cases s.compile? anchoring <;> rfl

/-- What is dropped for want of fields has no pattern anyway. -/
theorem filterMap_compile?_keptBehind (anchoring : Anchoring)
    (hnamed : ∀ s ∈ xs, Text.isBlankText s.name = false) (hdistinct : (xs.map (·.name)).Nodup)
    (hnew : ∀ s ∈ xs, s.name ∉ before) :
    (keptBehind before xs).filterMap (compile? anchoring) =
      xs.filterMap (compile? anchoring) := by
  induction xs generalizing before with
  | nil => rfl
  | cons s rest ih =>
      have hfirst := filterMap_compile?_repair anchoring (hnamed s List.mem_cons_self)
        (hnew s List.mem_cons_self)
      have hrest := ih (fun other hother => hnamed other (List.mem_cons_of_mem s hother))
        (List.nodup_cons.1 hdistinct).2 (names_new_behind hdistinct hnew)
      rw [keptBehind_cons, List.filterMap_append, hfirst, hrest, List.filterMap_cons]
      cases s.compile? anchoring <;> rfl

/-- The event says that a field was ignored. -/
def TellsOfIgnored (event : Event) : Prop := "ignoring invalid ".toList <+: event.message.toList

theorem not_tellsOfIgnored_noPatternWarning (s : Signature) :
    ¬TellsOfIgnored s.noPatternWarning := by
  have hmessage : ¬"ignoring invalid ".toList <+:
      "no usable pattern, excluded from scanning".toList := by
    decide
  exact hmessage

/-- A list of signatures with distinct names that are not blank has the patterns that it has when it
is repaired, in the same order. Of a repaired list no field is ignored, the marker included. -/
theorem compileAll_sanitize (anchoring : Anchoring) (xs : List Signature) :
    ((∀ s ∈ xs, Text.isBlankText s.name = false) → (xs.map (·.name)).Nodup →
      (compileAll anchoring xs).1 = (compileAll anchoring (sanitize xs).1).1) ∧
    (∀ s ∈ (sanitize xs).1, s.ignoredEvents = []) ∧
    ∀ event ∈ (compileAll anchoring (sanitize xs).1).2, ¬TellsOfIgnored event := by
  have hdecodes : ∀ s ∈ (sanitize xs).1, s.FieldsDecode :=
    fun s => fieldsDecode_of_mem_keptBehind
  refine ⟨fun hnamed hdistinct => ?_, fun s hs => ignoredEvents_eq_nil (hdecodes s hs), ?_⟩
  · have hkept := filterMap_compile?_keptBehind anchoring hnamed hdistinct
      fun s _ => List.not_mem_nil
    rw [compileAll, compileAll, sanitize_eq_keptBehind, hkept]
  · rw [compileAll_events anchoring hdecodes]
    intro event hevent
    obtain ⟨s, -, rfl⟩ := List.mem_map.1 hevent
    exact not_tellsOfIgnored_noPatternWarning s

def oddHeads : List Signature :=
  [{ name := "A", head := "4Z", tail := "FF D9", priority := 1 }, binary "B" "504",
    { name := "C", kind := .text, head := "4Z", pattern := "c" }]

/-- One of the three signatures is dropped, and the patterns are those of the other two all the
same. -/
theorem compileAll_sanitize_oddHeads :
    (sanitize oddHeads).1.map (·.name) = ["A", "C"] ∧
      (compileAll .start oddHeads).1 = (compileAll .start (sanitize oddHeads).1).1 ∧
      (sanitize oddHeads).1.filterMap (expression? .start) = ["\\xFF\\xD9", "c"] := by
  have hpatterns := (compileAll_sanitize .start oddHeads).1 (by decide +kernel) (by decide +kernel)
  exact ⟨by decide +kernel, hpatterns, by decide +kernel⟩

end FormatScan.Signature
