import FormatScan.Proofs.Pattern.Detected
import FormatScan.Proofs.Pattern.Opening

/-!
# Signatures with bytes at the beginning

A signature that names the bytes at the beginning of a format should be detected only where these
bytes stand. The marker is put behind them as it is, and so a bar in it that is outside of all
groups ends what the bytes are asked for with: a buffer that matches what stands behind the bar is
detected whatever it begins with. Nothing else breaks the rule.
-/

namespace FormatScan.Signature

open Regex

variable {s : Signature} {anchoring : Anchoring} {kind : EngineKind} {head : List UInt8}
  {bytes : ByteArray}

/-! ### The expression -/

def remainder? (s : Signature) : Option String := hexExpression? s.tail <|> s.markerExpression?

theorem hexExpression?_of_decode {field : String} {text : List UInt8}
    (hdecode : Text.Hex.decode field = .ok text) (hne : text ≠ []) :
    hexExpression? field = some (escapeBytes text) := by
  rw [hexExpression?, hdecode]
  cases text with
  | nil => exact absurd rfl hne
  | cons b text => rfl

/-- The expression of a field in hexadecimal consists of escapes only. -/
theorem eq_escapeBytes_of_hexExpression? {field expression : String}
    (hfield : hexExpression? field = some expression) :
    ∃ text, expression = escapeBytes text := by
  rw [hexExpression?] at hfield
  split at hfield
  · cases hfield
  · cases hfield
    exact ⟨_, rfl⟩
  · cases hfield

theorem toList_escapeBytes (text : List UInt8) :
    (escapeBytes text).toList = text.flatMap escapeByte := by
  rw [escapeBytes, String.toList_ofList]

/-- A pattern begins with the mark of its anchoring and the bytes at the beginning. -/
theorem expression?_of_head (hkind : s.kind = .binary) (hhead : Text.Hex.decode s.head = .ok head)
    (hne : head ≠ []) :
    s.expression? anchoring = some (match s.remainder? with
      | some rest => anchor anchoring ++ escapeBytes head ++ ".*?" ++ rest
      | none => anchor anchoring ++ escapeBytes head) := by
  rw [expression?, hkind]
  simp only [binaryExpression?, hexExpression?_of_decode hhead hne, remainder?]
  cases hexExpression? s.tail <|> s.markerExpression? <;> rfl

section

variable {p : Pattern} {m : Matcher}

theorem compile?_of_binary (hkind : s.kind = .binary) (hcompile : s.compile? anchoring = some p) :
    p.name = s.name ∧ p.caseless = false ∧ p.minFileSize = s.minFileSize ∧
      s.expression? anchoring = some p.expression := by
  rw [compile?] at hcompile
  obtain ⟨expression, hexpression, rfl⟩ := Option.map_eq_some_iff.1 hcompile
  refine ⟨rfl, ?_, rfl, hexpression⟩
  simp only [hkind]
  rfl

/-- The text of the pattern: the opening, and behind it what else is looked for. -/
theorem toList_expression (hkind : s.kind = .binary) (hhead : Text.Hex.decode s.head = .ok head)
    (hne : head ≠ []) (hcompile : s.compile? anchoring = some p) :
    p.expression.toList = anchoring.openingText head ++ (match s.remainder? with
      | some rest => '.' :: '*' :: '?' :: rest.toList
      | none => []) := by
  have hexpression := (compile?_of_binary hkind hcompile).2.2.2
  have hopening : (anchor anchoring ++ escapeBytes head).toList = anchoring.openingText head := by
    rw [String.toList_append, toList_escapeBytes, Anchoring.openingText]
  rw [expression?_of_head hkind hhead hne] at hexpression
  rw [← Option.some.inj hexpression]
  cases s.remainder? with
  | none => rw [hopening, List.append_nil]
  | some rest =>
      simp only [String.toList_append, hopening, List.append_assoc]
      rfl

theorem ofPattern_expression (hkind : s.kind = .binary) (hcompile : s.compile? anchoring = some p)
    (hmade : Matcher.ofPattern kind p = .ok m) :
    Expr.ofPattern (.start false) p.expression = .ok m.expr := by
  have hexpr := (Matcher.ofPattern_eq_ok hmade).2
  rwa [(compile?_of_binary hkind hcompile).2.1] at hexpr

/-- What the pattern asks for begins with the bytes, up to a bar if there is one. -/
theorem expr_of_head (hkind : s.kind = .binary) (hhead : Text.Hex.decode s.head = .ok head)
    (hne : head ≠ []) (hcompile : s.compile? anchoring = some p)
    (hmade : Matcher.ofPattern kind p = .ok m) :
    ∃ es, (m.expr = .seqs (anchoring.opening head ++ es) ∧ m.expr.behindBar? = none) ∨
      ∃ later, m.expr = .alt (.seqs (anchoring.opening head ++ es)) later := by
  have htext := toList_expression hkind hhead hne hcompile
  have hexpr := ofPattern_expression hkind hcompile hmade
  cases hremainder : s.remainder? with
  | none =>
      rw [hremainder, List.append_nil] at htext
      have he := Anchoring.ofPattern_opening htext hexpr
      refine ⟨[], .inl ⟨?_, ?_⟩⟩
      · rw [he, List.append_nil]
      · rw [he, Anchoring.behindBar?_opening hne]
  | some rest =>
      rw [hremainder] at htext
      obtain ⟨es, hes, he | ⟨later, he⟩⟩ := Anchoring.ofPattern_gap _ htext hexpr
      · refine ⟨es, .inl ⟨he, ?_⟩⟩
        rw [he, Expr.behindBar?_seqs_append (anchoring.opening_ne_nil hne) hes]
      · exact ⟨es, .inr ⟨later, he⟩⟩

/-- What is looked for behind the bytes is exact, unless the marker is an expression. -/
theorem eq_escapeBytes_of_remainder?
    (hexact : s.pattern = "" ∨ Text.Hex.isHex s.pattern = true ∨ hexExpression? s.tail ≠ none)
    {rest : String} (hrest : s.remainder? = some rest) : ∃ text, rest = escapeBytes text := by
  rw [remainder?] at hrest
  cases htail : hexExpression? s.tail with
  | some expression =>
      rw [htail] at hrest
      cases hrest
      exact eq_escapeBytes_of_hexExpression? htail
  | none =>
      rw [htail] at hrest
      have hmarker : s.markerExpression? = some rest := hrest
      rw [markerExpression?] at hmarker
      rcases hexact with hempty | hhex | htail'
      · rw [hempty] at hmarker
        cases hmarker
      · rw [if_pos hhex] at hmarker
        exact eq_escapeBytes_of_hexExpression? hmarker
      · exact absurd htail htail'

/-- Where a signature asks for bytes alone there is no bar. -/
theorem behindBar?_eq_none (hkind : s.kind = .binary) (hhead : Text.Hex.decode s.head = .ok head)
    (hne : head ≠ [])
    (hexact : s.pattern = "" ∨ Text.Hex.isHex s.pattern = true ∨ hexExpression? s.tail ≠ none)
    (hcompile : s.compile? anchoring = some p) (hmade : Matcher.ofPattern kind p = .ok m) :
    m.expr.behindBar? = none := by
  have htext := toList_expression hkind hhead hne hcompile
  have hexpr := ofPattern_expression hkind hcompile hmade
  cases hremainder : s.remainder? with
  | none =>
      rw [hremainder, List.append_nil] at htext
      rw [Anchoring.ofPattern_opening htext hexpr, Anchoring.behindBar?_opening hne]
  | some rest =>
      obtain ⟨text, rfl⟩ := eq_escapeBytes_of_remainder? hexact hremainder
      rw [hremainder] at htext
      simp only [toList_escapeBytes] at htext
      rw [Anchoring.ofPattern_escapes htext hexpr, Anchoring.openingAndTail,
        Expr.behindBar?_seqs_append (anchoring.opening_ne_nil hne) (List.cons_ne_nil _ _)]

end

/-! ### Detection -/

/-- A buffer that is long enough matches what stands behind the first bar of the pattern, if there
is a bar outside of all groups. -/
def MatchesBehindBar (s : Signature) (anchoring : Anchoring) (kind : EngineKind)
    (bytes : ByteArray) : Prop :=
  bytes.size ≠ 0 ∧ s.minFileSize.toNat ≤ bytes.size ∧
    ∃ p m later, s.compile? anchoring = some p ∧ Matcher.ofPattern kind p = .ok m ∧
      m.expr.behindBar? = some later ∧ (Haystack.ofBytes bytes).isMatch later = true

/-- What it takes for a single signature to be detected. -/
theorem isDetected_iff (hkind : s.kind = .binary) :
    s.IsDetected anchoring kind bytes ↔
      bytes.size ≠ 0 ∧ s.minFileSize.toNat ≤ bytes.size ∧
        ∃ p m, s.compile? anchoring = some p ∧ Matcher.ofPattern kind p = .ok m ∧
          (Haystack.ofBytes bytes).isMatch m.expr = true := by
  have hsatisfied {p : Pattern} {m : Matcher} (hcompile : s.compile? anchoring = some p)
      (hmade : Matcher.ofPattern kind p = .ok m) :
      m.matchesFile (Haystack.ofBytes bytes) = true ↔
        s.minFileSize.toNat ≤ bytes.size ∧ (Haystack.ofBytes bytes).isMatch m.expr = true := by
    obtain ⟨-, -, hsize, -⟩ := compile?_of_binary hkind hcompile
    rw [Matcher.matchesFile, (Matcher.ofPattern_eq_ok hmade).1, Bool.and_eq_true,
      Pattern.appliesTo, hsize, decide_eq_true_iff]
    rfl
  rw [isDetected_iff_matchesFile]
  apply and_congr_right
  intro _
  constructor
  · rintro ⟨m, hmatcher, hmatch⟩
    obtain ⟨p, hcompile, hmade⟩ := matcher?_eq_some.1 hmatcher
    obtain ⟨hsize, hexpr⟩ := (hsatisfied hcompile hmade).1 hmatch
    exact ⟨hsize, p, m, hcompile, hmade, hexpr⟩
  · rintro ⟨hsize, p, m, hcompile, hmade, hexpr⟩
    exact ⟨m, matcher?_eq_some.2 ⟨p, hcompile, hmade⟩, (hsatisfied hcompile hmade).2 ⟨hsize, hexpr⟩⟩

/-- Whatever matches behind the bar is enough, wherever it stands. -/
theorem isDetected_of_matchesBehindBar (hkind : s.kind = .binary)
    (hbehind : s.MatchesBehindBar anchoring kind bytes) : s.IsDetected anchoring kind bytes := by
  obtain ⟨hempty, hsize, p, m, later, hcompile, hmade, hbar, hmatch⟩ := hbehind
  refine (isDetected_iff hkind).2 ⟨hempty, hsize, p, m, hcompile, hmade, ?_⟩
  cases hexpr : m.expr <;> rw [hexpr] at hbar <;> cases hbar
  rw [Haystack.isMatch_alt, hmatch, Bool.or_true]

/-- A signature is detected without its bytes only behind a bar. -/
theorem finds_or_matchesBehindBar (hkind : s.kind = .binary)
    (hhead : Text.Hex.decode s.head = .ok head) (hne : head ≠ [])
    (hdetected : s.IsDetected anchoring kind bytes) :
    anchoring.Finds head bytes ∨ s.MatchesBehindBar anchoring kind bytes := by
  obtain ⟨hempty, hsize, p, m, hcompile, hmade, hmatch⟩ := (isDetected_iff hkind).1 hdetected
  obtain ⟨es, ⟨hexpr, -⟩ | ⟨later, hexpr⟩⟩ := expr_of_head hkind hhead hne hcompile hmade
  · rw [hexpr] at hmatch
    exact .inl (Anchoring.finds_of_isMatch hmatch)
  · rw [hexpr, Haystack.isMatch_alt, Bool.or_eq_true] at hmatch
    rcases hmatch with hfirst | hlater
    · exact .inl (Anchoring.finds_of_isMatch hfirst)
    · refine .inr ⟨hempty, hsize, p, m, later, hcompile, hmade, ?_, hlater⟩
      rw [hexpr]
      rfl

/-- Where a signature is detected its bytes stand, at the beginning or anywhere as they are looked
for, except in a buffer that matches what stands behind a bar, which is detected in any case. So the
rule holds for a signature exactly if whatever matches behind its bar has the bytes as well, and it
always does unless the marker is an expression. -/
theorem head_of_isDetected_iff (hkind : s.kind = .binary)
    (hhead : Text.Hex.decode s.head = .ok head) (hne : head ≠ []) :
    (∀ bytes, s.IsDetected anchoring kind bytes ∧ ¬anchoring.Finds head bytes ↔
      s.MatchesBehindBar anchoring kind bytes ∧ ¬anchoring.Finds head bytes) ∧
    ((∀ bytes, s.IsDetected anchoring kind bytes → anchoring.Finds head bytes) ↔
      ∀ bytes, s.MatchesBehindBar anchoring kind bytes → anchoring.Finds head bytes) ∧
    (s.pattern = "" ∨ Text.Hex.isHex s.pattern = true ∨ hexExpression? s.tail ≠ none →
      ∀ bytes, ¬s.MatchesBehindBar anchoring kind bytes) := by
  refine ⟨?_, ?_, ?_⟩
  · intro bytes
    apply and_congr_left
    intro hmissing
    constructor
    · intro hdetected
      exact (finds_or_matchesBehindBar hkind hhead hne hdetected).resolve_left hmissing
    · exact isDetected_of_matchesBehindBar hkind
  · constructor
    · intro hrule bytes hbehind
      exact hrule bytes (isDetected_of_matchesBehindBar hkind hbehind)
    · intro hbar bytes hdetected
      exact (finds_or_matchesBehindBar hkind hhead hne hdetected).elim id (hbar bytes)
  · rintro hexact bytes ⟨-, -, p, m, later, hcompile, hmade, hbar, -⟩
    rw [behindBar?_eq_none hkind hhead hne hexact hcompile hmade] at hbar
    cases hbar

def barred : Signature := { binary "ZIP" "504B" with pattern := "foo|bar" }

def barredPattern : Pattern := ⟨"ZIP", "^\\x50\\x4B.*?foo|bar", false, 0, 0⟩

theorem compile?_barred : barred.compile? .start = some barredPattern := by decide +kernel

theorem matchesBehindBar_barred : barred.MatchesBehindBar .start .backtrack "bar".toUTF8 := by
  have hmatch : ((Matcher.ofPattern .backtrack barredPattern).toOption.bind
      (·.expr.behindBar?)).map (Haystack.ofBytes "bar".toUTF8).isMatch = some true := by
    decide +kernel
  obtain ⟨later, hbar, hlater⟩ := Option.map_eq_some_iff.1 hmatch
  obtain ⟨m, hm, hbar⟩ := Option.bind_eq_some_iff.1 hbar
  cases hmade : Matcher.ofPattern .backtrack barredPattern with
  | error exclusion =>
      rw [hmade] at hm
      cases hm
  | ok m' =>
      rw [hmade] at hm
      cases hm
      exact ⟨by decide, by decide, barredPattern, m, later, compile?_barred, hmade, hbar, hlater⟩

/-- The words behind the bar are detected at the beginning of a file. -/
theorem head_of_isDetected_iff_barred :
    barred.kind = .binary ∧ Text.Hex.decode barred.head = .ok [0x50, 0x4B] ∧
      [(0x50 : UInt8), 0x4B] ≠ [] ∧ barred.IsDetected .start .backtrack "bar".toUTF8 ∧
        ¬Anchoring.Finds .start [0x50, 0x4B] "bar".toUTF8 := by
  have hhead : Text.Hex.decode barred.head = .ok [0x50, 0x4B] := by rfl
  have hmissing : ¬Anchoring.Finds .start [0x50, 0x4B] "bar".toUTF8 := by decide +kernel
  refine ⟨rfl, hhead, List.cons_ne_nil _ _, ?_⟩
  exact ((head_of_isDetected_iff rfl hhead (List.cons_ne_nil _ _)).1 _).2
    ⟨matchesBehindBar_barred, hmissing⟩

/-- Both engines detect the signature in a file without its bytes, at the beginning or anywhere. -/
theorem barred_isDetected_without_head :
    (barred.IsDetected .start .backtrack "bar".toUTF8 ∧
        barred.IsDetected .start .twoPhase "bar".toUTF8 ∧
        ¬Anchoring.Finds .start [0x50, 0x4B] "bar".toUTF8) ∧
      barred.IsDetected .unanchored .backtrack "bar".toUTF8 ∧
        barred.IsDetected .unanchored .twoPhase "bar".toUTF8 ∧
        ¬Anchoring.Finds .unanchored [0x50, 0x4B] "bar".toUTF8 := by
  have hdetected : ∀ kind ∈ [EngineKind.backtrack, .twoPhase],
      ∀ anchoring ∈ [Anchoring.start, .unanchored], ((barred.compile? anchoring).map fun p =>
        ((({ kind } : Engine).prepare [p]).engine.scan "bar".toUTF8 .empty).isPresent
          barred.name) = some true := by
    decide +kernel
  have hall : ∀ kind ∈ [EngineKind.backtrack, .twoPhase],
      ∀ anchoring ∈ [Anchoring.start, .unanchored],
        barred.IsDetected anchoring kind "bar".toUTF8 := fun kind hkind anchoring hanchoring =>
    Option.map_eq_some_iff.1 (hdetected kind hkind anchoring hanchoring)
  refine ⟨⟨?_, ?_, by decide +kernel⟩, ?_, ?_, by decide +kernel⟩
  · exact hall .backtrack (by decide) .start (by decide)
  · exact hall .twoPhase (by decide) .start (by decide)
  · exact hall .backtrack (by decide) .unanchored (by decide)
  · exact hall .twoPhase (by decide) .unanchored (by decide)

end FormatScan.Signature
