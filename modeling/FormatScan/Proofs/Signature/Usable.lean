import FormatScan.Pattern
import FormatScan.Proofs.Signature.Sanitize
import FormatScan.Proofs.Text.Spelling

/-!
# Which of the kept signatures give a pattern

A signature is kept if any of its fields is set, and what can be decoded counts as set. A pattern
needs more: a text takes it from the marker alone, and bytes that are nothing but white space are
no bytes. A kept signature without a pattern is left out of the scan with a warning.
-/

namespace FormatScan.Signature

variable {s : Signature} {anchoring : Anchoring} {xs kept : List Signature}

/-- No field holds what the kind of the signature takes a pattern from. -/
def LacksPattern (s : Signature) : Prop :=
  s.pattern = "" ∧ (s.kind = .binary →
    Text.isBlankText s.head = true ∧ Text.isBlankText s.tail = true)

instance (s : Signature) : Decidable s.LacksPattern := inferInstanceAs (Decidable (_ ∧ _))

/-- Signatures whose fields in hexadecimal can be decoded as far as they are looked at. -/
def FieldsDecode (s : Signature) : Prop :=
  s.kind = .binary → (∃ bytes, Text.Hex.decode s.head = .ok bytes) ∧
    ∃ bytes, Text.Hex.decode s.tail = .ok bytes

/-! ### What the pass keeps -/

theorem exists_decode_clearHex (field : String) :
    ∃ bytes, Text.Hex.decode (clearHex field) = .ok bytes := by
  rw [clearHex]
  cases hdecode : Text.Hex.decode field with
  | ok bytes => exact ⟨bytes, hdecode⟩
  | error e => exact ⟨[], rfl⟩

theorem fieldsDecode_clearInvalidHex (s : Signature) : s.clearInvalidHex.FieldsDecode := by
  rw [clearInvalidHex]
  cases hkind : s.kind with
  | binary => exact fun _ => ⟨exists_decode_clearHex s.head, exists_decode_clearHex s.tail⟩
  | text =>
      intro hbinary
      rw [hkind] at hbinary
      cases hbinary

/-- Whatever is kept has fields that can be decoded. -/
theorem fieldsDecode_of_mem_keptBehind {before : List String} (hs : s ∈ keptBehind before xs) :
    s.FieldsDecode := by
  induction xs generalizing before with
  | nil => cases hs
  | cons first rest ih =>
      rw [keptBehind_cons, List.mem_append, Option.mem_toList] at hs
      rcases hs with hfirst | hrest
      · obtain ⟨-, -, -, rfl⟩ := repair_eq_some_iff.1 hfirst
        exact fieldsDecode_clearInvalidHex first
      · exact ih hrest

theorem eq_sanitize_of_parse {text : String} (hparse : (parse text).map Prod.fst = .ok kept) :
    ∃ xs, (sanitize xs).1 = kept := by
  cases hread : Json.parse text with
  | error e =>
      rw [parse, hread] at hparse
      cases hparse
  | ok value =>
      cases value with
      | array entries =>
          rw [parse_fst hread] at hparse
          exact ⟨entries.filterMap entrySignature?, Except.ok.inj hparse⟩
      | _ =>
          rw [parse, hread] at hparse
          cases hparse

/-! ### Patterns -/

theorem hexExpression?_eq_none_iff {field : String} {bytes : List UInt8}
    (hdecode : Text.Hex.decode field = .ok bytes) :
    hexExpression? field = none ↔ Text.isBlankText field = true := by
  rw [← Text.Hex.decode_eq_ok_nil_iff, hexExpression?, hdecode]
  cases bytes with
  | nil => exact iff_of_true rfl rfl
  | cons b bytes => exact iff_of_false (fun heq => nomatch heq) fun heq => nomatch heq

theorem nonEmpty?_eq_none_iff {field : String} : nonEmpty? field = none ↔ field = "" := by
  rw [nonEmpty?]
  split
  · rename_i hempty
    exact iff_of_true rfl hempty
  · rename_i hset
    exact iff_of_false (fun heq => nomatch heq) hset

theorem markerExpression?_eq_none_iff : s.markerExpression? = none ↔ s.pattern = "" := by
  rw [markerExpression?]
  split
  · rename_i hhex
    obtain ⟨bytes, hdecode, hne⟩ := Text.Hex.exists_decode_of_isHex hhex
    rw [hexExpression?_eq_none_iff hdecode]
    refine iff_of_false ?_ ?_
    · rw [← Text.Hex.decode_eq_ok_nil_iff, hdecode, Except.ok.injEq]
      exact hne
    · intro hempty
      rw [hempty] at hhex
      cases hhex
  · exact nonEmpty?_eq_none_iff

theorem binaryExpression?_eq_none_iff :
    s.binaryExpression? anchoring = none ↔
      hexExpression? s.head = none ∧ hexExpression? s.tail = none ∧
        s.markerExpression? = none := by
  rw [binaryExpression?]
  cases hexExpression? s.head <;> cases hexExpression? s.tail <;> cases s.markerExpression? <;>
    simp

/-- A signature whose fields can be decoded has no pattern if and only if all that its kind looks at
is blank or empty. -/
theorem compile?_eq_none_iff (anchoring : Anchoring) (hdecodes : s.FieldsDecode) :
    s.compile? anchoring = none ↔ s.LacksPattern := by
  rw [compile?, Option.map_eq_none_iff, expression?, LacksPattern]
  cases hkind : s.kind with
  | text =>
      simp only [nonEmpty?_eq_none_iff, reduceCtorEq, false_implies, and_true]
  | binary =>
      obtain ⟨⟨head, hhead⟩, tail, htail⟩ := hdecodes hkind
      simp only [binaryExpression?_eq_none_iff, hexExpression?_eq_none_iff hhead,
        hexExpression?_eq_none_iff htail, markerExpression?_eq_none_iff, true_implies]
      rw [← and_assoc, and_comm]

theorem name_of_compile? {p : Pattern} (hcompile : s.compile? anchoring = some p) :
    p.name = s.name := by
  obtain ⟨expression, -, rfl⟩ := Option.map_eq_some_iff.1 hcompile
  rfl

/-! ### Lists -/

theorem ignoredHexEvents_of_decode {name label field : String} {bytes : List UInt8}
    (hdecode : Text.Hex.decode field = .ok bytes) : ignoredHexEvents name label field = [] := by
  rw [ignoredHexEvents, hdecode]

theorem ignoredEvents_eq_nil (hdecodes : s.FieldsDecode) : s.ignoredEvents = [] := by
  rw [ignoredEvents]
  cases hkind : s.kind with
  | text => rfl
  | binary =>
      obtain ⟨⟨head, hhead⟩, tail, htail⟩ := hdecodes hkind
      simp only [ignoredHexEvents_of_decode hhead, ignoredHexEvents_of_decode htail,
        List.nil_append]
      split
      · rename_i hhex
        obtain ⟨bytes, hdecode, -⟩ := Text.Hex.exists_decode_of_isHex hhex
        exact ignoredHexEvents_of_decode hdecode
      · rfl

def noPatternWarning (s : Signature) : Event :=
  .signatureWarning s.name "no usable pattern, excluded from scanning"

theorem compileEvents_of_fieldsDecode (anchoring : Anchoring) (hdecodes : s.FieldsDecode) :
    s.compileEvents anchoring = if s.LacksPattern then [s.noPatternWarning] else [] := by
  rw [compileEvents, ignoredEvents_eq_nil hdecodes, List.nil_append]
  simp only [Option.isNone_iff_eq_none, compile?_eq_none_iff anchoring hdecodes]
  rfl

theorem length_compileAll (anchoring : Anchoring) (hdecodes : ∀ s ∈ kept, s.FieldsDecode) :
    (compileAll anchoring kept).1.length + (kept.filter (·.LacksPattern)).length =
      kept.length := by
  have hlacks : kept.filter (·.LacksPattern) =
      kept.filter fun s => ¬(s.compile? anchoring).isSome = true := by
    apply List.filter_congr
    intro s hs
    rw [decide_eq_decide, Option.not_isSome_iff_eq_none]
    exact (compile?_eq_none_iff anchoring (hdecodes s hs)).symm
  rw [compileAll, Pattern.inScanOrder, List.length_mergeSort, List.length_filterMap_eq_countP,
    hlacks, ← List.countP_eq_length_filter, ← List.length_eq_countP_add_countP]

/-- The only warnings are those about signatures without a pattern. -/
theorem compileAll_events (anchoring : Anchoring) (hdecodes : ∀ s ∈ kept, s.FieldsDecode) :
    (compileAll anchoring kept).2 = (kept.filter (·.LacksPattern)).map noPatternWarning := by
  change kept.flatMap (compileEvents anchoring) = _
  induction kept with
  | nil => rfl
  | cons s rest ih =>
      have hfirst := compileEvents_of_fieldsDecode anchoring (hdecodes s List.mem_cons_self)
      have hrest := ih fun other hother => hdecodes other (List.mem_cons_of_mem s hother)
      rw [List.flatMap_cons, hfirst, hrest, List.filter_cons]
      by_cases hlacks : s.LacksPattern
      · rw [if_pos hlacks, if_pos (decide_eq_true hlacks), List.map_cons, List.singleton_append]
      · rw [if_neg hlacks, if_neg (mt of_decide_eq_true hlacks), List.nil_append]

/-- Of the kept signatures, whether from a list or from a text, those and only those without a
pattern are left out of the scan, each with a warning. -/
theorem kept_compile?_eq_none_iff (anchoring : Anchoring)
    (hkept : (∃ xs, (sanitize xs).1 = kept) ∨
      ∃ text, (parse text).map Prod.fst = .ok kept) :
    (∀ s ∈ kept, s.compile? anchoring = none ↔ s.LacksPattern) ∧
      (compileAll anchoring kept).1.length + (kept.filter (·.LacksPattern)).length = kept.length ∧
      (compileAll anchoring kept).2 = (kept.filter (·.LacksPattern)).map noPatternWarning := by
  have hdecodes : ∀ s ∈ kept, s.FieldsDecode := by
    have hsanitize : ∃ xs, (sanitize xs).1 = kept := by
      rcases hkept with hsanitize | ⟨text, hparse⟩
      · exact hsanitize
      · exact eq_sanitize_of_parse hparse
    obtain ⟨xs, rfl⟩ := hsanitize
    exact fun s => fieldsDecode_of_mem_keptBehind
  exact ⟨fun s hs => compile?_eq_none_iff anchoring (hdecodes s hs),
    length_compileAll anchoring hdecodes, compileAll_events anchoring hdecodes⟩

def headOnlyText : Signature := { name := "A", kind := .text, head := "41" }

def blankHead : Signature := { name := "B", head := " " }

def headOnlyJson : String :=
  "[\x7b\"name\":\"A\",\"type\":\"text\",\"hex_head\":\"41\"\x7d]"

theorem kept_compile?_eq_none_iff_headOnly :
    (sanitize [headOnlyText, blankHead]).1 = [headOnlyText, blankHead] ∧
      (compileAll .start [headOnlyText, blankHead]).1.length +
        ([headOnlyText, blankHead].filter (·.LacksPattern)).length = 2 := by
  have hkept : (sanitize [headOnlyText, blankHead]).1 = [headOnlyText, blankHead] := by
    decide +kernel
  exact ⟨hkept, (kept_compile?_eq_none_iff .start (.inl ⟨_, hkept⟩)).2.1⟩

/-- Kept signatures without a pattern: one of each kind, and one from a text. -/
theorem kept_without_pattern :
    (sanitize [headOnlyText, blankHead]).1 = [headOnlyText, blankHead] ∧
      (parse headOnlyJson).map Prod.fst = .ok [headOnlyText] ∧
      headOnlyText.compile? .start = none ∧ headOnlyText.compile? .unanchored = none ∧
      blankHead.compile? .start = none ∧ blankHead.compile? .unanchored = none ∧
      (compileAll .start [headOnlyText, blankHead]).1 = [] ∧
      (compileAll .start [headOnlyText, blankHead]).2.length = 2 := by
  refine ⟨by decide +kernel, ?_, by decide +kernel⟩
  exact (parse_fst rfl).trans (congrArg _ (by decide +kernel))

end FormatScan.Signature
