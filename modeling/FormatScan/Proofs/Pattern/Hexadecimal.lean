import FormatScan.Proofs.Pattern.Anchored
import FormatScan.Proofs.Signature.Usable
import FormatScan.Proofs.Text.Spelling

/-!
# Bytes in hexadecimal and in patterns

What a signature writes in hexadecimal is decoded to bytes and put into the pattern as escapes. Each
way to write bytes is decoded to them and nothing else is; a marker that looks like hexadecimal
gives an expression and no warning; and different bytes have different escapes, one byte behind
another.
-/

namespace FormatScan

open Text (visible)
open Text.Hex

/-! ### Escapes -/

theorem escapeByte_injective : Function.Injective escapeByte := by
  intro a b heq
  simp only [escapeByte, List.cons.injEq, true_and, and_true] at heq
  obtain ⟨hhigh, hlow⟩ := heq
  have hhighValue := Regex.hexValue?_upperDigit_high a
  have hlowValue := Regex.hexValue?_upperDigit_low a
  rw [hhigh, Regex.hexValue?_upperDigit_high b, Option.some.injEq] at hhighValue
  rw [hlow, Regex.hexValue?_upperDigit_low b, Option.some.injEq] at hlowValue
  rw [← UInt8.toNat_inj]
  omega

theorem escapeBytes_append (front back : List UInt8) :
    escapeBytes (front ++ back) = escapeBytes front ++ escapeBytes back := by
  rw [escapeBytes, List.flatMap_append, String.ofList_append, escapeBytes, escapeBytes]

theorem flatMap_escapeByte_injective :
    Function.Injective fun bytes : List UInt8 => bytes.flatMap escapeByte := by
  intro bytes
  induction bytes with
  | nil =>
      intro others heq
      cases others with
      | nil => rfl
      | cons b others => cases heq
  | cons a bytes ih =>
      intro others heq
      cases others with
      | nil => cases heq
      | cons b others =>
          -- All escapes are of one length.
          obtain ⟨hbyte, hrest⟩ := List.append_inj heq rfl
          rw [escapeByte_injective hbyte, ih hrest]

/-- Escapes have one width, so that a row of them can be cut at one place only. -/
theorem escapeBytes_injective : Function.Injective escapeBytes := by
  intro bytes others heq
  apply flatMap_escapeByte_injective
  exact String.ofList_injective heq

namespace Signature

variable {s : Signature} {anchoring : Anchoring}

/-! ### Markers -/

theorem markerExpression?_of_isHex (hhex : isHex s.pattern = true) :
    ∃ bytes, decode s.pattern = .ok bytes ∧ bytes ≠ [] ∧
      s.markerExpression? = some (escapeBytes bytes) := by
  obtain ⟨bytes, hdecode, hne⟩ := exists_decode_of_isHex hhex
  refine ⟨bytes, hdecode, hne, ?_⟩
  rw [markerExpression?, if_pos hhex, hexExpression?_of_decode hdecode hne]

/-- A marker in hexadecimal always makes a pattern. -/
theorem isSome_compile?_of_isHex (hkind : s.kind = .binary) (hhex : isHex s.pattern = true) :
    (s.compile? anchoring).isSome = true := by
  obtain ⟨bytes, -, -, hmarker⟩ := markerExpression?_of_isHex hhex
  rw [← Option.ne_none_iff_isSome, compile?, ne_eq, Option.map_eq_none_iff, expression?, hkind]
  simp only [binaryExpression?_eq_none_iff]
  rintro ⟨-, -, hnone⟩
  rw [hnone] at hmarker
  cases hmarker

/-- Only the bytes at the beginning and those at the end are warned about. -/
theorem compileEvents_of_isHex (hkind : s.kind = .binary) (hhex : isHex s.pattern = true) :
    s.compileEvents anchoring = ignoredHexEvents s.name "hex_head" s.head ++
      ignoredHexEvents s.name "hex_tail" s.tail := by
  obtain ⟨bytes, hdecode, -⟩ := exists_decode_of_isHex hhex
  have hcompile : (s.compile? anchoring).isSome = true := isSome_compile?_of_isHex hkind hhex
  rw [compileEvents, ignoredEvents, hkind]
  simp only [ignoredHexEvents_of_decode hdecode, ite_self, List.append_nil,
    Option.isNone_eq_false_iff.2 hcompile, Bool.false_eq_true, if_false]

end Signature

/-! ### Decoding and escaping -/

/-- A field is decoded to bytes exactly if it is a way to write them, and
then it is what they are encoded as, but for capital letters and white space. A field that is not
made of an even number of digits cannot be decoded: an odd number of bytes is told first, and the
first byte that is no digit otherwise. A field that looks like hexadecimal is decoded to half as
many bytes as it has itself, and a marker that does gives an expression and no warning. Escapes of
bytes are those of their parts one behind the other, and from the escapes the bytes can be told. -/
theorem hexadecimal_decoded_as_spelled (field : String) (s : Signature) (anchoring : Anchoring) :
    (∀ bytes, Spells bytes field.toList ↔ decode field = .ok bytes) ∧
      (∀ bytes, decode field = .ok bytes →
        (visible field.toList).map Char.toLower = (encode bytes).toList) ∧
      ((∃ bytes, decode field = .ok bytes) ↔
        (visible field.toList).length % 2 = 0 ∧ ∀ c ∈ visible field.toList, c ∈ digits) ∧
      (decode field = .error .oddLength ↔ (utf8 (visible field.toList)).length % 2 = 1) ∧
      (∀ b index, decode field = .error (.invalidByte b index) ↔
        (utf8 (visible field.toList)).length % 2 = 0 ∧
          IsFirstStray (utf8 (visible field.toList)) b index) ∧
      (isHex field = true ↔ field ≠ "" ∧ (∀ c ∈ field.toList, Text.isBlank c = false) ∧
        ∃ bytes, decode field = .ok bytes) ∧
      (isHex field = true → ∃ bytes, decode field = .ok bytes ∧
        bytes.length = field.utf8ByteSize / 2 ∧ 1 ≤ bytes.length) ∧
      (s.kind = .binary → isHex s.pattern = true →
        (∃ bytes, decode s.pattern = .ok bytes ∧ bytes ≠ [] ∧
            s.markerExpression? = some (escapeBytes bytes)) ∧
          (s.compile? anchoring).isSome = true ∧
          s.compileEvents anchoring = Signature.ignoredHexEvents s.name "hex_head" s.head ++
            Signature.ignoredHexEvents s.name "hex_tail" s.tail) ∧
      escapeBytes [] = "" ∧
      (∀ front back, escapeBytes (front ++ back) = escapeBytes front ++ escapeBytes back) ∧
      Function.Injective escapeBytes := by
  refine ⟨fun _ => decode_eq_ok_iff.symm, ?encoded, exists_decode_iff,
    decode_eq_error_oddLength_iff, fun _ _ => decode_eq_error_invalidByte_iff, isHex_iff, ?looks,
    ?marker, rfl, escapeBytes_append, escapeBytes_injective⟩
  case encoded =>
    intro bytes hdecode
    exact map_toLower_of_cases (decode_eq_ok_iff_visible.1 hdecode)
  case looks =>
    intro hhex
    obtain ⟨bytes, hdecode, hne⟩ := exists_decode_of_isHex hhex
    exact ⟨bytes, hdecode, length_of_isHex hhex hdecode, List.length_pos_of_ne_nil hne⟩
  case marker =>
    intro hkind hhex
    exact ⟨Signature.markerExpression?_of_isHex hhex,
      Signature.isSome_compile?_of_isHex hkind hhex, Signature.compileEvents_of_isHex hkind hhex⟩

def oleDocument : Signature := { Signature.binary "DOC" "D0C" with pattern := "57006f00" }

/-- White space of one byte and of several within and between the pairs. -/
theorem hexadecimal_decoded_as_spelled_spaced :
    Spells [0x50, 0x4B, 0x0A] "5\t0 4b\u00A0\u30000\u2009A".toList ∧
      decode "5\t0 4b\u00A0\u30000\u2009A" = .ok [0x50, 0x4B, 0x0A] ∧
      (visible "5\t0 4b\u00A0\u30000\u2009A".toList).map Char.toLower =
        (encode [0x50, 0x4B, 0x0A]).toList ∧
      oleDocument.kind = .binary ∧ isHex oleDocument.pattern = true ∧
      (∃ bytes, decode oleDocument.pattern = .ok bytes ∧
        bytes.length = oleDocument.pattern.utf8ByteSize / 2 ∧ 1 ≤ bytes.length) ∧
      (oleDocument.compile? .start).isSome = true ∧
      oleDocument.compileEvents .start =
        [.signatureWarning "DOC" "ignoring invalid hex_head: Odd number of digits"] := by
  obtain ⟨hspells, hencoded, -⟩ :=
    hexadecimal_decoded_as_spelled "5\t0 4b\u00A0\u30000\u2009A" oleDocument .start
  obtain ⟨-, -, -, -, -, -, hlooks, hmarker, -⟩ :=
    hexadecimal_decoded_as_spelled oleDocument.pattern oleDocument .start
  have hdecode : decode "5\t0 4b\u00A0\u30000\u2009A" = .ok [0x50, 0x4B, 0x0A] := by
    decide +kernel
  have hhex : isHex oleDocument.pattern = true := by decide +kernel
  obtain ⟨-, hcompile, hevents⟩ := hmarker rfl hhex
  exact ⟨(hspells _).2 hdecode, hdecode, hencoded _ hdecode, rfl, hhex, hlooks hhex, hcompile,
    hevents⟩

/-- A character of two bytes: they are told of as bytes. -/
example : decode "5é" = .error .oddLength ∧ decode "5é0" = .error (.invalidByte 0xC3 1) := by
  decide +kernel

end FormatScan
