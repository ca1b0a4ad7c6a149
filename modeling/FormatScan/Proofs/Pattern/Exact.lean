import FormatScan.Proofs.Pattern.Parents
import FormatScan.Proofs.Regex.Gap
import FormatScan.Proofs.Signature.Usable

/-!
# Signatures of exact bytes

A signature whose fields are all in hexadecimal has an expression that is accepted in any case, and
it asks for nothing but its bytes: those at the beginning, and behind them at any distance those at
the end or else the marker.
-/

namespace FormatScan

open Regex

def OccursAt (text : List UInt8) (bytes : ByteArray) (i : Nat) : Prop :=
  text <+: bytes.data.toList.drop i

instance (text : List UInt8) (bytes : ByteArray) (i : Nat) : Decidable (OccursAt text bytes i) :=
  inferInstanceAs (Decidable (text <+: bytes.data.toList.drop i))

namespace Anchoring

variable {anchoring : Anchoring} {head tail : List UInt8} {bytes : ByteArray} {h : Haystack}

/-- The bytes stand at a place where they are looked for. -/
def FindsAt (anchoring : Anchoring) (head : List UInt8) (bytes : ByteArray) (i : Nat) : Prop :=
  (anchoring = .start → i = 0) ∧ OccursAt head bytes i

theorem testBit_textStart (h : Haystack) (i : Nat) :
    (h.ends (.look .textStart) h.places).testBit i = true ↔ i = 0 := by
  rw [Haystack.ends, Haystack.lookAt, Nat.testBit_and, h.testBit_places, Bool.and_eq_true,
    decide_eq_true_iff, Nat.testBit_one_eq_true_iff_self_eq_zero]
  exact ⟨And.right, fun hzero => ⟨hzero ▸ Nat.zero_le _, hzero⟩⟩

/-- A match of the opening ends behind the bytes. -/
theorem testBit_ends_opening (hne : head ≠ []) (j : Nat) :
    (h.ends (.seqs (anchoring.opening head)) h.places).testBit j = true ↔
      ∃ i, anchoring.FindsAt head h.bytes i ∧ j = i + head.length := by
  -- without bytes to look for every place would do, those behind the last one included
  have hinside {i : Nat} (htext : head <+: h.bytesFrom i) : i ≤ h.size := by
    by_contra hout
    rw [Haystack.bytesFrom_eq_nil (by omega)] at htext
    exact hne (List.prefix_nil.1 htext)
  cases anchoring with
  | start =>
      rw [opening, Haystack.ends_seqs_cons, ← Expr.bytes, Haystack.testBit_ends_bytes]
      refine exists_congr fun i => ?_
      rw [testBit_textStart, ← and_assoc]
      exact and_congr_left fun _ => and_congr_left fun _ =>
        ⟨fun hzero _ => hzero, fun hstart => hstart rfl⟩
  | unanchored =>
      rw [opening, ← Expr.bytes, Haystack.testBit_ends_bytes]
      refine exists_congr fun i => ?_
      rw [h.testBit_places, decide_eq_true_iff, ← and_assoc]
      refine and_congr_left fun _ => ⟨?_, ?_⟩
      · rintro ⟨-, htext⟩
        refine ⟨fun hstart => ?_, htext⟩
        cases hstart
      · rintro ⟨-, htext⟩
        exact ⟨hinside htext, htext⟩

theorem isMatch_opening_iff_exists (hne : head ≠ []) :
    h.isMatch (.seqs (anchoring.opening head)) = true ↔
      ∃ i, anchoring.FindsAt head h.bytes i := by
  rw [Haystack.isMatch_iff]
  constructor
  · intro hmatch
    obtain ⟨j, hj⟩ := Nat.exists_testBit_of_ne_zero hmatch
    obtain ⟨i, hi, -⟩ := (testBit_ends_opening hne j).1 hj
    exact ⟨i, hi⟩
  · rintro ⟨i, hi⟩ hnone
    have hbit := (testBit_ends_opening hne _).2 ⟨i, hi, rfl⟩
    rw [hnone, Nat.zero_testBit] at hbit
    cases hbit

/-- The second bytes stand somewhere behind the first ones. -/
theorem isMatch_openingAndTail_iff (hne : head ≠ []) (hne' : tail ≠ []) :
    h.isMatch (.seqs (anchoring.openingAndTail head tail)) = true ↔
      ∃ i j, anchoring.FindsAt head h.bytes i ∧ i + head.length ≤ j ∧ OccursAt tail h.bytes j := by
  rw [Haystack.isMatch_iff, openingAndTail, Haystack.ends_seqs_append,
    Haystack.ends_gap_bytes_ne_zero_iff hne']
  simp only [testBit_ends_opening hne]
  constructor
  · rintro ⟨_, j, ⟨i, hi, rfl⟩, hle, htail⟩
    exact ⟨i, j, hi, hle, htail⟩
  · rintro ⟨i, j, hi, hle, htail⟩
    exact ⟨_, j, ⟨i, hi, rfl⟩, hle, htail⟩

end Anchoring

namespace Signature

variable {s : Signature} {anchoring : Anchoring} {kind : EngineKind} {bytes : ByteArray}
  {p : Pattern}

def fieldBytes? (field : String) : Option (List UInt8) :=
  match Text.Hex.decode field with
  | .ok [] => none
  | .ok bytes => some bytes
  | .error _ => none

def tailBytes? (s : Signature) : Option (List UInt8) := fieldBytes? s.tail <|> fieldBytes? s.pattern

def looseBytes? (s : Signature) : Option (List UInt8) :=
  fieldBytes? s.pattern <|> fieldBytes? s.tail

/-- A buffer has the bytes of a signature: those at the beginning where they are looked for, and
those behind them at any distance. -/
def IsFound (s : Signature) (anchoring : Anchoring) (bytes : ByteArray) : Prop :=
  match fieldBytes? s.head with
  | some head => ∃ i, anchoring.FindsAt head bytes i ∧
      ∀ rest ∈ s.tailBytes?, ∃ j, i + head.length ≤ j ∧ OccursAt rest bytes j
  | none => ∃ text ∈ s.looseBytes?, ∃ i, OccursAt text bytes i

theorem fieldBytes?_eq_some_iff {field : String} {text : List UInt8} :
    fieldBytes? field = some text ↔ Text.Hex.decode field = .ok text ∧ text ≠ [] := by
  unfold fieldBytes?
  split
  · rename_i hdecode
    rw [hdecode]
    exact ⟨nofun, fun ⟨hnil, hne⟩ => absurd (Except.ok.inj hnil).symm hne⟩
  · rename_i bytes hne hdecode
    rw [hdecode, Option.some.injEq, Except.ok.injEq]
    exact ⟨fun heq => ⟨heq, heq ▸ hne⟩, And.left⟩
  · rename_i hdecode
    rw [hdecode]
    exact ⟨nofun, nofun⟩

theorem ne_nil_of_fieldBytes? {field other : String} {text : List UInt8}
    (hfields : (fieldBytes? field <|> fieldBytes? other) = some text) : text ≠ [] := by
  rcases (Option.orElse_eq_some _ _ _).1 hfields with hfield | ⟨-, hfield⟩
  · exact (fieldBytes?_eq_some_iff.1 hfield).2
  · exact (fieldBytes?_eq_some_iff.1 hfield).2

theorem hexExpression?_eq (field : String) :
    hexExpression? field = (fieldBytes? field).map escapeBytes := by
  unfold hexExpression? fieldBytes?
  rcases Text.Hex.decode field with _ | _ | _ <;> rfl

theorem markerExpression?_eq (hexact : s.pattern = "" ∨ Text.Hex.isHex s.pattern = true) :
    s.markerExpression? = (fieldBytes? s.pattern).map escapeBytes := by
  unfold markerExpression?
  rcases hexact with hempty | hhex
  · rw [hempty]
    rfl
  · rw [if_pos hhex, hexExpression?_eq]

/-- What is looked for behind the beginning is the tail, or else a marker in hexadecimal. -/
theorem remainder?_eq (hexact : s.pattern = "" ∨ Text.Hex.isHex s.pattern = true) :
    s.remainder? = s.tailBytes?.map escapeBytes := by
  unfold remainder? tailBytes?
  rw [markerExpression?_eq hexact, hexExpression?_eq]
  cases fieldBytes? s.tail <;> rfl

def exactExpr? (s : Signature) (anchoring : Anchoring) : Option Expr :=
  match fieldBytes? s.head with
  | some head =>
    match s.tailBytes? with
    | some rest => some (.seqs (anchoring.openingAndTail head rest))
    | none => some (.seqs (anchoring.opening head))
  | none => s.looseBytes?.map fun text => .seqs (Anchoring.opening .unanchored text)

section

variable (hkind : s.kind = .binary) (hexact : s.pattern = "" ∨ Text.Hex.isHex s.pattern = true)

include hkind hexact

/-- The pattern of a signature that asks for bytes alone can be read, and asks for them. -/
theorem ofPattern_of_compile? (hcompile : s.compile? anchoring = some p) :
    ∃ e, s.exactExpr? anchoring = some e ∧
      Expr.ofPattern (.start p.caseless) p.expression = .ok e := by
  obtain ⟨-, hcaseless, -, hexpression⟩ := compile?_of_binary hkind hcompile
  rw [hcaseless]
  unfold exactExpr?
  cases hhead : fieldBytes? s.head with
  | some head =>
      obtain ⟨hdecode, hne⟩ := fieldBytes?_eq_some_iff.1 hhead
      have htext := toList_expression hkind hdecode hne hcompile
      rw [remainder?_eq hexact] at htext
      cases htail : s.tailBytes? with
      | some rest =>
          simp only [htail, Option.map_some, toList_escapeBytes] at htext
          exact ⟨_, rfl, Anchoring.ofPattern_openingAndTail htext⟩
      | none =>
          simp only [htail, Option.map_none, List.append_nil] at htext
          exact ⟨_, rfl, Anchoring.ofPattern_openingText htext⟩
  | none =>
      have hloose : s.looseBytes?.map escapeBytes = some p.expression := by
        rw [← hexpression, expression?, hkind, binaryExpression?, hexExpression?_eq s.head, hhead,
          markerExpression?_eq hexact, hexExpression?_eq]
        unfold looseBytes?
        cases fieldBytes? s.pattern <;> rfl
      obtain ⟨text, hbytes, htext⟩ := Option.map_eq_some_iff.1 hloose
      rw [hbytes, ← htext]
      exact ⟨_, rfl, Anchoring.ofPattern_openingText (toList_escapeBytes text)⟩

theorem compile?_eq_none_iff_bytes : s.compile? anchoring = none ↔
    fieldBytes? s.head = none ∧ fieldBytes? s.tail = none ∧ fieldBytes? s.pattern = none := by
  rw [compile?, Option.map_eq_none_iff, expression?, hkind]
  simp only [binaryExpression?_eq_none_iff, markerExpression?_eq hexact, hexExpression?_eq,
    Option.map_eq_none_iff]

omit hkind hexact in
theorem isMatch_exactExpr? {e : Expr} (hexpr : s.exactExpr? anchoring = some e) :
    (Haystack.ofBytes bytes).isMatch e = true ↔ s.IsFound anchoring bytes := by
  unfold exactExpr? at hexpr
  unfold IsFound
  cases hhead : fieldBytes? s.head with
  | some head =>
      have hne := (fieldBytes?_eq_some_iff.1 hhead).2
      rw [hhead] at hexpr
      cases htail : s.tailBytes? with
      | some rest =>
          simp only [htail, Option.some.injEq] at hexpr
          rw [← hexpr, Anchoring.isMatch_openingAndTail_iff hne (ne_nil_of_fieldBytes? htail)]
          constructor
          · rintro ⟨i, j, hi, hle, hj⟩
            refine ⟨i, hi, ?_⟩
            rintro _ ⟨⟩
            exact ⟨j, hle, hj⟩
          · rintro ⟨i, hi, hrest⟩
            obtain ⟨j, hle, hj⟩ := hrest rest rfl
            exact ⟨i, j, hi, hle, hj⟩
      | none =>
          simp only [htail, Option.some.injEq] at hexpr
          rw [← hexpr, Anchoring.isMatch_opening_iff_exists hne]
          constructor
          · rintro ⟨i, hi⟩
            exact ⟨i, hi, nofun⟩
          · rintro ⟨i, hi, -⟩
            exact ⟨i, hi⟩
  | none =>
      rw [hhead] at hexpr
      obtain ⟨text, htext, rfl⟩ := Option.map_eq_some_iff.1 hexpr
      rw [Anchoring.isMatch_opening_iff_exists (ne_nil_of_fieldBytes? htext)]
      constructor
      · rintro ⟨i, -, hi⟩
        exact ⟨text, htext, i, hi⟩
      · rintro ⟨text', htext', i, hi⟩
        rw [htext] at htext'
        cases htext'
        exact ⟨i, nofun, hi⟩

end

/-- A signature of exact bytes has a pattern unless it has no bytes. The pattern is accepted, only
the engine that limits the size may refuse it, and an engine that does not refuse it detects the
signature in the buffers that are long enough and have the bytes. -/
theorem isPresent_exact_iff (hkind : s.kind = .binary)
    (hexact : s.pattern = "" ∨ Text.Hex.isHex s.pattern = true) (anchoring : Anchoring) :
    (s.compile? anchoring = none ↔
      fieldBytes? s.head = none ∧ fieldBytes? s.tail = none ∧ fieldBytes? s.pattern = none) ∧
    ∀ p, s.compile? anchoring = some p →
      (∃ e, Expr.ofPattern (.start p.caseless) p.expression = .ok e) ∧
      ∀ kind,
        (∀ exclusion, Matcher.ofPattern kind p = .error exclusion →
          kind = .twoPhase ∧ exclusion = ⟨s.name, sizeFault⟩) ∧
        ∀ m, Matcher.ofPattern kind p = .ok m → ∀ bytes, bytes.size ≠ 0 →
          ∀ signatures, s ∈ signatures → (∀ t ∈ signatures, t.name = s.name → t = s) →
            (((prepareFor kind anchoring signatures).engine.scan bytes .empty).isPresent s.name =
                true ↔
              s.minFileSize.toNat ≤ bytes.size ∧ s.IsFound anchoring bytes) := by
  refine ⟨compile?_eq_none_iff_bytes hkind hexact, ?_⟩
  intro p hcompile
  obtain ⟨e, he, hexpr⟩ := ofPattern_of_compile? hkind hexact hcompile
  refine ⟨⟨e, hexpr⟩, ?_⟩
  intro kind
  constructor
  · intro exclusion hmade
    rw [Matcher.ofPattern, hexpr] at hmade
    simp only at hmade
    split at hmade
    · rename_i hlimit
      cases hmade
      rw [name_of_compile? hcompile]
      exact ⟨hlimit.1, rfl⟩
    · cases hmade
  · intro m hmade bytes hempty signatures hs hunique
    have hmatcher : m.expr = e := Except.ok.inj ((Matcher.ofPattern_eq_ok hmade).2.symm.trans hexpr)
    have hdetected : s.IsDetected anchoring kind bytes ↔
        s.minFileSize.toNat ≤ bytes.size ∧ s.IsFound anchoring bytes := by
      rw [isDetected_iff hkind, ← isMatch_exactExpr? he]
      constructor
      · rintro ⟨-, hsize, p', m', hcompile', hmade', hmatch⟩
        rw [hcompile] at hcompile'
        cases hcompile'
        rw [hmade] at hmade'
        cases hmade'
        exact ⟨hsize, hmatcher ▸ hmatch⟩
      · rintro ⟨hsize, hmatch⟩
        exact ⟨hempty, hsize, p, m, hcompile, hmade, hmatcher ▸ hmatch⟩
    rw [isPresent_scan_prepareFor_iff, ← hdetected]
    constructor
    · rintro ⟨t, ht, hname, hfound⟩
      rwa [hunique t ht hname] at hfound
    · exact fun hfound => ⟨s, hs, rfl, hfound⟩

def photo : Signature := { binary "JPG" "ffd8" with pattern := "FFD9", minFileSize := 4 }

def smallPhoto : ByteArray := ⟨#[0xFF, 0xD8, 10, 0, 0xFF, 0xD9]⟩

theorem isFound_smallPhoto : photo.IsFound .start smallPhoto := by
  have hhead : fieldBytes? photo.head = some [0xFF, 0xD8] := by decide +kernel
  have htail : photo.tailBytes? = some [0xFF, 0xD9] := by decide +kernel
  unfold IsFound
  rw [hhead, htail]
  refine ⟨0, ⟨fun _ => rfl, by decide⟩, ?_⟩
  rintro _ ⟨⟩
  exact ⟨4, by decide, by decide⟩

theorem isPresent_smallPhoto :
    photo.kind = .binary ∧ Text.Hex.isHex photo.pattern = true ∧
      ((prepareFor .twoPhase .start [photo]).engine.scan smallPhoto .empty).isPresent "JPG" =
        true := by
  have hhex : Text.Hex.isHex photo.pattern = true := by decide +kernel
  have haccepted : (photo.matcher? .start .twoPhase).isSome = true := by decide +kernel
  obtain ⟨m, hm⟩ := Option.isSome_iff_exists.1 haccepted
  obtain ⟨p, hp, hmade⟩ := matcher?_eq_some.1 hm
  have hiff := ((isPresent_exact_iff rfl (.inr hhex) .start).2 p hp).2 .twoPhase
  refine ⟨rfl, hhex, (hiff.2 m hmade smallPhoto (by decide) [photo] List.mem_cons_self ?_).2 ?_⟩
  · exact fun t ht _ => List.mem_singleton.1 ht
  · exact ⟨by decide, isFound_smallPhoto⟩

end Signature

end FormatScan
