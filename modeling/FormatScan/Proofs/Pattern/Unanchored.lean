import FormatScan.Proofs.Pattern.Anchored
import FormatScan.Proofs.Regex.StartMark

/-!
# Bytes at the beginning or anywhere

Where the bytes at the beginning of a format are looked for anywhere, the expression of a signature
lacks the mark for the beginning and is the same otherwise. So nothing that is detected with the
mark is missed without it, whatever the marker of the signature is. Signatures that have no such
bytes have the same pattern in both cases.
-/

namespace FormatScan.Signature

open Regex

variable {s : Signature} {kind : EngineKind} {bytes : ByteArray} {name : String}

def HasHead (s : Signature) : Prop :=
  s.kind = .binary ∧ ∃ head, Text.Hex.decode s.head = .ok head ∧ head ≠ []

def isAccepted (kind : EngineKind) (s : Signature) : Bool :=
  (s.matcher? .start kind).isSome && (s.matcher? .unanchored kind).isSome

/-! ### Expressions -/

theorem hexExpression?_eq_none {field : String}
    (hnone : ¬∃ text, Text.Hex.decode field = .ok text ∧ text ≠ []) :
    hexExpression? field = none := by
  rw [hexExpression?]
  split
  · rfl
  · rename_i text hne hdecode
    exact absurd ⟨text, hdecode, hne⟩ hnone
  · rfl

/-- The anchoring shows in the bytes at the beginning only. -/
theorem compile?_of_no_head (hnone : ¬s.HasHead) : s.compile? .start = s.compile? .unanchored := by
  rw [compile?, compile?, expression?, expression?]
  cases hkind : s.kind with
  | text => rfl
  | binary =>
      have hhead : hexExpression? s.head = none :=
        hexExpression?_eq_none fun hdecodes => hnone ⟨hkind, hdecodes⟩
      simp only [binaryExpression?, hhead]

/-- The mark for the beginning stands in front of all that is looked for anywhere. -/
theorem expression?_of_hasHead (hhead : s.HasHead) :
    ∃ text, s.expression? .unanchored = some text ∧ s.expression? .start = some ("^" ++ text) := by
  obtain ⟨hkind, head, hdecode, hne⟩ := hhead
  refine ⟨_, expression?_of_head hkind hdecode hne, ?_⟩
  rw [expression?_of_head hkind hdecode hne, Option.some.injEq]
  cases s.remainder? <;> simp only [anchor, String.empty_append, String.append_assoc]

/-! ### Detection -/

theorem isDetected_of_no_head (hnone : ¬s.HasHead) :
    s.IsDetected .start kind bytes ↔ s.IsDetected .unanchored kind bytes := by
  rw [IsDetected, IsDetected, compile?_of_no_head hnone]

/-- Without the mark in front more is matched. -/
theorem isDetected_unanchored_of_hasHead (hhead : s.HasHead)
    (haccepted : (s.matcher? .unanchored kind).isSome = true)
    (hdetected : s.IsDetected .start kind bytes) : s.IsDetected .unanchored kind bytes := by
  obtain ⟨hempty, hsize, p, m, hcompile, hmade, hmatch⟩ := (isDetected_iff hhead.1).1 hdetected
  obtain ⟨m', hmatcher⟩ := Option.isSome_iff_exists.1 haccepted
  obtain ⟨p', hcompile', hmade'⟩ := matcher?_eq_some.1 hmatcher
  refine (isDetected_iff hhead.1).2 ⟨hempty, hsize, p', m', hcompile', hmade', ?_⟩
  obtain ⟨text, htext, hmarked⟩ := expression?_of_hasHead hhead
  have hexpr := ofPattern_expression hhead.1 hcompile hmade
  have hexpr' := ofPattern_expression hhead.1 hcompile' hmade'
  rw [(compile?_of_binary hhead.1 hcompile).2.2.2, Option.some.injEq] at hmarked
  rw [(compile?_of_binary hhead.1 hcompile').2.2.2, Option.some.injEq] at htext
  rw [hmarked] at hexpr
  rw [htext] at hexpr'
  exact Haystack.isMatch_of_startMark hexpr' hexpr hmatch

theorem isDetected_unanchored (haccepted : (s.matcher? .unanchored kind).isSome = true)
    (hdetected : s.IsDetected .start kind bytes) : s.IsDetected .unanchored kind bytes := by
  by_cases hhead : s.HasHead
  · exact isDetected_unanchored_of_hasHead hhead haccepted hdetected
  · exact (isDetected_of_no_head hhead).1 hdetected

/-- Of the signatures that the engine accepts under both anchorings every name that is detected
where the bytes at the beginning are looked for at the beginning is detected where they are looked
for anywhere, among these signatures as well as among all. Signatures without such bytes are
detected in the same files. -/
theorem unanchored_detects (kind : EngineKind) (xs : List Signature) (bytes : ByteArray) :
    (∀ name, ((prepareFor kind .start (xs.filter (isAccepted kind))).engine.scan bytes
          .empty).isPresent name = true →
      ((prepareFor kind .unanchored (xs.filter (isAccepted kind))).engine.scan bytes
          .empty).isPresent name = true ∧
        ((prepareFor kind .unanchored xs).engine.scan bytes .empty).isPresent name = true) ∧
    ∀ s : Signature, ¬s.HasHead →
      (s.IsDetected .start kind bytes ↔ s.IsDetected .unanchored kind bytes) := by
  refine ⟨fun name hpresent => ?_, fun s => isDetected_of_no_head⟩
  obtain ⟨s, hs, hname, hdetected⟩ := isPresent_scan_prepareFor_iff.1 hpresent
  obtain ⟨hmem, haccepted⟩ := List.mem_filter.1 hs
  rw [isAccepted, Bool.and_eq_true] at haccepted
  have hanywhere := isDetected_unanchored haccepted.2 hdetected
  exact ⟨isPresent_scan_prepareFor_iff.2 ⟨s, hs, hname, hanywhere⟩,
    isPresent_scan_prepareFor_iff.2 ⟨s, hmem, hname, hanywhere⟩⟩

def barredArchive : Signature := { binary "ZIP" "504B" with pattern := "foo|(?i)bar" }

def wholeWord : Signature := text "WORD" "^bar$"

def archiveAndWord : List Signature := [barredArchive, wholeWord]

/-- A file without the bytes at the beginning that the marker lets pass. -/
theorem unanchored_detects_bar :
    barredArchive ∈ archiveAndWord.filter (isAccepted .twoPhase) ∧
      barredArchive.IsDetected .start .twoPhase "BAR".toUTF8 ∧
      ((prepareFor .twoPhase .unanchored archiveAndWord).engine.scan "BAR".toUTF8
        .empty).isPresent "ZIP" = true ∧
      ¬wholeWord.HasHead ∧ (wholeWord.IsDetected .start .twoPhase "BAR".toUTF8 ↔
        wholeWord.IsDetected .unanchored .twoPhase "BAR".toUTF8) := by
  have haccepted : barredArchive ∈ archiveAndWord.filter (isAccepted .twoPhase) :=
    List.mem_filter.2 ⟨List.mem_cons_self, by decide +kernel⟩
  have hscan : (barredArchive.compile? .start).map (fun p =>
      ((({ kind := .twoPhase } : Engine).prepare [p]).engine.scan "BAR".toUTF8 .empty).isPresent
        barredArchive.name) = some true := by
    decide +kernel
  have hdetected : barredArchive.IsDetected .start .twoPhase "BAR".toUTF8 :=
    Option.map_eq_some_iff.1 hscan
  have htext : ¬wholeWord.HasHead := fun hhead => nomatch hhead.1
  obtain ⟨hnames, hsame⟩ := unanchored_detects .twoPhase archiveAndWord "BAR".toUTF8
  have hpresent := isPresent_scan_prepareFor_iff.2 ⟨barredArchive, haccepted, rfl, hdetected⟩
  exact ⟨haccepted, hdetected, (hnames "ZIP" hpresent).2, htext, hsame wholeWord htext⟩

end FormatScan.Signature
