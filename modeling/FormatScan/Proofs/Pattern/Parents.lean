import FormatScan.Config.Policy
import FormatScan.Proofs.Engine.Agreement
import FormatScan.Proofs.Pattern.Anchored
import FormatScan.Signature.Builtin

/-!
# Formats that count as others

Every file of some formats counts as a file of another format as well, which the correction relies
on. The built-in signatures of such formats ask for the same bytes at the beginning as that of the
other format, so that whatever is detected as the one has what the other asks for. The other format
wants files of some length on top of that, and a shorter file is detected as the one alone.
-/

namespace FormatScan.Signature

open Regex

variable {s child parent : Signature} {anchoring : Anchoring} {kind : EngineKind} {m : Matcher}
  {head : List UInt8} {bytes : ByteArray}

/-! ### The same bytes at the beginning -/

/-- A format without a marker asks for its first bytes only. -/
theorem expr_of_head_only {p : Pattern} (hkind : s.kind = .binary)
    (hhead : Text.Hex.decode s.head = .ok head) (hne : head ≠ []) (honly : s.remainder? = none)
    (hcompile : s.compile? anchoring = some p) (hmade : Matcher.ofPattern kind p = .ok m) :
    m.expr = .seqs (anchoring.opening head) := by
  have htext := toList_expression hkind hhead hne hcompile
  rw [honly, List.append_nil] at htext
  exact Anchoring.ofPattern_opening htext (ofPattern_expression hkind hcompile hmade)

/-- A format that asks for nothing else than bytes is detected in every file that has them and is
long enough. -/
theorem isDetected_iff_finds (hkind : s.kind = .binary)
    (hhead : Text.Hex.decode s.head = .ok head) (hne : head ≠ []) (honly : s.remainder? = none)
    (hmatcher : (s.matcher? anchoring kind).isSome = true) :
    s.IsDetected anchoring kind bytes ↔
      bytes.size ≠ 0 ∧ s.minFileSize.toNat ≤ bytes.size ∧ anchoring.Finds head bytes := by
  rw [isDetected_iff hkind]
  apply and_congr_right
  intro _
  apply and_congr_right
  intro _
  constructor
  · rintro ⟨p, m, hcompile, hmade, hmatch⟩
    rw [expr_of_head_only hkind hhead hne honly hcompile hmade] at hmatch
    exact Anchoring.isMatch_opening_iff.1 hmatch
  · intro hfinds
    obtain ⟨m, hm⟩ := Option.isSome_iff_exists.1 hmatcher
    obtain ⟨p, hcompile, hmade⟩ := matcher?_eq_some.1 hm
    refine ⟨p, m, hcompile, hmade, ?_⟩
    rw [expr_of_head_only hkind hhead hne honly hcompile hmade]
    exact Anchoring.isMatch_opening_iff.2 hfinds

def expr? (s : Signature) (anchoring : Anchoring) : Option Expr :=
  (s.compile? anchoring).bind fun p => (Expr.ofPattern (.start p.caseless) p.expression).toOption

theorem expr?_of_ofPattern {p : Pattern} (hcompile : s.compile? anchoring = some p)
    (hmade : Matcher.ofPattern kind p = .ok m) : s.expr? anchoring = some m.expr := by
  rw [expr?, hcompile, Option.bind_some, (Matcher.ofPattern_eq_ok hmade).2]
  rfl

/-- What the stricter kind of engine takes every kind takes. -/
theorem isSome_matcher?_of_twoPhase (hmatcher : (s.matcher? anchoring .twoPhase).isSome = true) :
    (s.matcher? anchoring kind).isSome = true := by
  obtain ⟨m, hm⟩ := Option.isSome_iff_exists.1 hmatcher
  obtain ⟨p, hcompile, hmade⟩ := matcher?_eq_some.1 hm
  cases hmade' : Matcher.ofPattern kind p with
  | ok m' => rw [matcher?_eq_some.2 ⟨p, hcompile, hmade'⟩, Option.isSome_some]
  | error exclusion =>
      have hrefuses : kind.refuses p = true := by rw [EngineKind.refuses, hmade']; rfl
      have htwoPhase := Matcher.refuses_twoPhase_of_refuses hrefuses
      rw [EngineKind.refuses, hmade] at htwoPhase
      cases htwoPhase

/-- Checks that two signatures ask for the same bytes at the beginning, that no engine refuses the
parent and the parent asks for nothing else, and that the marker of the child consists of bytes or
has no bar outside of all groups. -/
def opensLike (anchoring : Anchoring) (child parent : Signature) : Bool :=
  decide (child.kind = .binary ∧ parent.kind = .binary) &&
    (match Text.Hex.decode child.head, Text.Hex.decode parent.head with
      | .ok head, .ok head' => !head.isEmpty && head == head'
      | _, _ => false) &&
    parent.remainder?.isNone && (parent.matcher? anchoring .twoPhase).isSome &&
    (Text.Hex.isHex child.pattern || (child.expr? anchoring).all (·.behindBar?.isNone))

/-- A pattern that is exact behind the bytes at the beginning, or has no bar outside of all groups,
does not set a file free of these bytes. -/
theorem finds_of_isDetected (hkind : s.kind = .binary)
    (hhead : Text.Hex.decode s.head = .ok head) (hne : head ≠ [])
    (hbar : (s.pattern = "" ∨ Text.Hex.isHex s.pattern = true ∨ hexExpression? s.tail ≠ none) ∨
      (s.expr? anchoring).all (·.behindBar?.isNone) = true)
    (hdetected : s.IsDetected anchoring kind bytes) : anchoring.Finds head bytes := by
  refine (finds_or_matchesBehindBar hkind hhead hne hdetected).resolve_right ?_
  rintro ⟨-, -, p, m, later, hcompile, hmade, hlater, -⟩
  rcases hbar with hexact | hbar
  · rw [behindBar?_eq_none hkind hhead hne hexact hcompile hmade] at hlater
    cases hlater
  · rw [expr?_of_ofPattern hcompile hmade, Option.all_some, hlater] at hbar
    cases hbar

/-- What is detected as the child is detected as the parent if it is long enough for the parent. -/
theorem isDetected_parent_iff (hopens : opensLike anchoring child parent = true)
    (hdetected : child.IsDetected anchoring kind bytes) :
    parent.IsDetected anchoring kind bytes ↔ parent.minFileSize.toNat ≤ bytes.size := by
  rw [opensLike] at hopens
  simp only [Bool.and_eq_true, decide_eq_true_iff] at hopens
  obtain ⟨⟨⟨⟨⟨hchild, hparent⟩, hheads⟩, honly⟩, hmatcher⟩, hbar⟩ := hopens
  cases hhead : Text.Hex.decode child.head with
  | error e =>
      rw [hhead] at hheads
      cases hheads
  | ok head =>
      cases hhead' : Text.Hex.decode parent.head with
      | error e =>
          rw [hhead, hhead'] at hheads
          cases hheads
      | ok head' =>
          simp only [hhead, hhead', Bool.and_eq_true, Bool.not_eq_true', List.isEmpty_eq_false_iff,
            beq_iff_eq] at hheads
          obtain ⟨hne, rfl⟩ := hheads
          have hfinds : anchoring.Finds head bytes :=
            finds_of_isDetected hchild hhead hne
              ((Bool.or_eq_true_iff.1 hbar).imp_left fun hhex => .inr (.inl hhex)) hdetected
          have hempty := (isDetected_iff_matchesFile.1 hdetected).1
          rw [isDetected_iff_finds hparent hhead' hne (Option.isNone_iff_eq_none.1 honly)
            (isSome_matcher?_of_twoPhase hmatcher)]
          simp only [hempty, hfinds, ne_eq, not_false_iff, true_and, and_true]

/-! ### The built-in signatures -/

/-- Every file of the child counts as a file of the parent as well: the child is derived from the
container, or it is to be deducted from the parent. -/
def CountsAs (policy : ContainerPolicy) (child parent : Signature) : Prop :=
  child.name ∈ policy.derived ∧ parent.name = policy.container ∨
    child.deductFrom = some parent.name

instance (policy : ContainerPolicy) (child parent : Signature) :
    Decidable (CountsAs policy child parent) :=
  inferInstanceAs (Decidable (_ ∨ _))

/-- The check holds of all built-in formats that count as each other. -/
theorem opensLike_of_mem_builtin : ∀ anchoring ∈ [Anchoring.start, .unanchored],
    ∀ child ∈ builtin, ∀ parent ∈ builtin,
      CountsAs {} child parent → opensLike anchoring child parent = true := by
  decide +kernel

theorem nodup_names_builtin : (builtin.map (·.name)).Nodup := by decide +kernel

/-- The built-in names are different, so that a name stands for one signature. -/
theorem isPresent_scan_builtin_iff (hs : s ∈ builtin) :
    ((prepareFor kind anchoring builtin).engine.scan bytes .empty).isPresent s.name = true ↔
      s.IsDetected anchoring kind bytes := by
  rw [isPresent_scan_prepareFor_iff]
  constructor
  · rintro ⟨s', hs', hname, hdetected⟩
    rwa [← List.inj_on_of_nodup_map nodup_names_builtin hs' hs hname]
  · exact fun hdetected => ⟨s, hs, rfl, hdetected⟩

/-- For the built-in formats the least size of the parent is all that may keep it from being
detected. -/
theorem isDetected_parent_iff_of_countsAs (hchild : child ∈ builtin) (hparent : parent ∈ builtin)
    (hcounts : CountsAs {} child parent) (hdetected : child.IsDetected anchoring kind bytes) :
    parent.IsDetected anchoring kind bytes ↔ parent.minFileSize.toNat ≤ bytes.size := by
  have hanchoring : anchoring ∈ [Anchoring.start, .unanchored] := by cases anchoring <;> decide
  exact isDetected_parent_iff
    (opensLike_of_mem_builtin anchoring hanchoring child hchild parent hparent hcounts) hdetected

/-- With the built-in signatures, a file that is detected as a format that counts as another is
detected as the other one exactly if it is long enough for it. -/
theorem parent_isPresent_iff (anchoring : Anchoring) (kind : EngineKind) (bytes : ByteArray)
    (hchild : child ∈ builtin) (hparent : parent ∈ builtin) (hcounts : CountsAs {} child parent)
    (hdetected : ((prepareFor kind anchoring builtin).engine.scan bytes .empty).isPresent
      child.name = true) :
    ((prepareFor kind anchoring builtin).engine.scan bytes .empty).isPresent parent.name = true ↔
      parent.minFileSize.toNat ≤ bytes.size := by
  rw [isPresent_scan_builtin_iff hchild] at hdetected
  rw [isPresent_scan_builtin_iff hparent]
  exact isDetected_parent_iff_of_countsAs hchild hparent hcounts hdetected

def builtinZip : Signature :=
  { name := "ZIP", head := "504B0304", extensions := ["zip"], minFileSize := 22 }

def builtinDocx : Signature :=
  { name := "DOCX", head := "504B0304", pattern := "word/document.xml", extensions := ["docx"],
    priority := 5 }

def shortestDocument : ByteArray := "PK\x03\x04word/document.xml".toUTF8

theorem isDetected_shortestDocument (anchoring : Anchoring) (kind : EngineKind) :
    builtinDocx.IsDetected anchoring kind shortestDocument := by
  have hmatch : ∀ anchoring ∈ [Anchoring.start, .unanchored],
      ∀ kind ∈ [EngineKind.backtrack, .twoPhase, .vectorscan],
        ∃ m ∈ builtinDocx.matcher? anchoring kind,
          m.matchesFile (Haystack.ofBytes shortestDocument) = true := by
    decide +kernel
  have hanchoring : anchoring ∈ [Anchoring.start, .unanchored] := by cases anchoring <;> decide
  have hkind : kind ∈ [EngineKind.backtrack, .twoPhase, .vectorscan] := by cases kind <;> decide
  exact isDetected_iff_matchesFile.2 ⟨by decide, hmatch anchoring hanchoring kind hkind⟩

theorem builtinZip_mem : builtinZip ∈ builtin := by decide +kernel

theorem builtinDocx_mem : builtinDocx ∈ builtin := by decide +kernel

theorem builtinDocx_countsAs : CountsAs {} builtinDocx builtinZip := by decide +kernel

/-- The shortest document is too short for an archive. -/
theorem parent_isPresent_iff_shortestDocument :
    builtinDocx ∈ builtin ∧ builtinZip ∈ builtin ∧ CountsAs {} builtinDocx builtinZip ∧
      ((prepareFor .twoPhase .start builtin).engine.scan shortestDocument .empty).isPresent
        "DOCX" = true ∧
      (((prepareFor .twoPhase .start builtin).engine.scan shortestDocument .empty).isPresent
        "ZIP" = true ↔ 22 ≤ shortestDocument.size) := by
  have hdetected := (isPresent_scan_builtin_iff builtinDocx_mem).2
    (isDetected_shortestDocument .start .twoPhase)
  exact ⟨builtinDocx_mem, builtinZip_mem, builtinDocx_countsAs, hdetected,
    parent_isPresent_iff .start .twoPhase shortestDocument builtinDocx_mem builtinZip_mem
      builtinDocx_countsAs hdetected⟩

theorem isDetected_builtinZip_shortestDocument (anchoring : Anchoring) (kind : EngineKind) :
    ¬builtinZip.IsDetected anchoring kind shortestDocument := by
  rw [isDetected_parent_iff_of_countsAs builtinDocx_mem builtinZip_mem builtinDocx_countsAs
    (isDetected_shortestDocument anchoring kind)]
  decide +kernel

/-- Either engine detects the shortest document as a document and not as an archive, wherever it
looks for the bytes. -/
theorem shortestDocument_is_no_archive :
    (((prepareFor .backtrack .start builtin).engine.scan shortestDocument .empty).isPresent
          "DOCX" = true ∧
        ((prepareFor .backtrack .start builtin).engine.scan shortestDocument .empty).isPresent
          "ZIP" = false) ∧
      (((prepareFor .twoPhase .start builtin).engine.scan shortestDocument .empty).isPresent
          "DOCX" = true ∧
        ((prepareFor .twoPhase .start builtin).engine.scan shortestDocument .empty).isPresent
          "ZIP" = false) ∧
      (((prepareFor .backtrack .unanchored builtin).engine.scan shortestDocument .empty).isPresent
          "DOCX" = true ∧
        ((prepareFor .backtrack .unanchored builtin).engine.scan shortestDocument .empty).isPresent
          "ZIP" = false) ∧
      ((prepareFor .twoPhase .unanchored builtin).engine.scan shortestDocument .empty).isPresent
          "DOCX" = true ∧
        ((prepareFor .twoPhase .unanchored builtin).engine.scan shortestDocument .empty).isPresent
          "ZIP" = false := by
  have hdocument (anchoring : Anchoring) (kind : EngineKind) :
      ((prepareFor kind anchoring builtin).engine.scan shortestDocument .empty).isPresent
        "DOCX" = true :=
    (isPresent_scan_builtin_iff builtinDocx_mem).2 (isDetected_shortestDocument anchoring kind)
  have harchive (anchoring : Anchoring) (kind : EngineKind) :
      ((prepareFor kind anchoring builtin).engine.scan shortestDocument .empty).isPresent
        "ZIP" = false := by
    rw [← Bool.not_eq_true]
    exact mt (isPresent_scan_builtin_iff builtinZip_mem).1
      (isDetected_builtinZip_shortestDocument anchoring kind)
  exact ⟨⟨hdocument _ _, harchive _ _⟩, ⟨hdocument _ _, harchive _ _⟩,
    ⟨hdocument _ _, harchive _ _⟩, hdocument _ _, harchive _ _⟩

end FormatScan.Signature
