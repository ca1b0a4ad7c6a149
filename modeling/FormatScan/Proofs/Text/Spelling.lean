import FormatScan.Proofs.Text.Hex

/-!
# The ways to write bytes

Bytes are written with two digits each, every letter among the digits is small or capital, and white
space stands anywhere, within a pair as well. Whatever is written so is decoded to the bytes, and
nothing else is decoded: of a field that has an odd number of bytes without its white space that is
told, and of any other one the first byte that is no digit.
-/

namespace FormatScan.Text

/-- A text with white space put in anywhere. -/
inductive Spaced : List Char → List Char → Prop where
  | nil : Spaced [] []
  | keep {chars text : List Char} (c : Char) (hrest : Spaced chars text) :
      Spaced (c :: chars) (c :: text)
  | blank {chars text : List Char} {c : Char} (hblank : c.toNat ∈ Hex.blankPoints)
      (hrest : Spaced chars text) : Spaced chars (c :: text)

def visible (text : List Char) : List Char := text.filter fun c => !isBlank c

/-- A text is its visible part with white space put in. -/
theorem spaced_visible (text : List Char) : Spaced (visible text) text := by
  induction text with
  | nil => exact .nil
  | cons c text ih =>
      rw [visible, List.filter_cons]
      split
      · exact .keep c ih
      · rename_i hblank
        rw [Bool.not_eq_true', Bool.not_eq_false] at hblank
        exact .blank (Hex.isBlank_iff_mem_blankPoints.1 hblank) ih

theorem Spaced.visible_eq {chars text : List Char} (hspaced : Spaced chars text)
    (hchars : ∀ c ∈ chars, isBlank c = false) : visible text = chars := by
  induction hspaced with
  | nil => rfl
  | keep c hrest ih =>
      obtain ⟨hc, hchars⟩ := List.forall_mem_cons.1 hchars
      rw [visible, List.filter_cons_of_pos (by rw [hc]; rfl)]
      exact congrArg (c :: ·) (ih hchars)
  | @blank chars text c hblank hrest ih =>
      have hdrop : ¬(!isBlank c) = true := by
        rw [Hex.isBlank_iff_mem_blankPoints.2 hblank]
        decide
      rw [visible, List.filter_cons, if_neg hdrop]
      exact ih hchars

namespace Hex

variable {bytes : List UInt8} {index : Nat} {field : String} {chars : List Char}

/-- The ways to write bytes. -/
def Spells (bytes : List UInt8) (text : List Char) : Prop :=
  ∃ chars, List.Forall₂ IsCaseOf (encode bytes).toList chars ∧ Spaced chars text

/-! ### Fields -/

/-- What is decoded are the bytes of the visible part. -/
theorem compact_eq (field : String) : compact field = utf8 (visible field.toList) := rfl

theorem forall₂_isCaseOf_iff :
    List.Forall₂ IsCaseOf (encode bytes).toList chars ↔
      (utf8 chars).map digitValue? = (nibbles bytes).map some := by
  rw [toList_encode, map_digitValue?_utf8_iff fun n => lt_of_mem_nibbles]

theorem length_of_cases (hcases : List.Forall₂ IsCaseOf (encode bytes).toList chars) :
    chars.length = 2 * bytes.length := by
  rw [← hcases.length_eq, toList_encode, List.length_map, length_nibbles]

theorem mem_digits_of_cases (hcases : List.Forall₂ IsCaseOf (encode bytes).toList chars) :
    ∀ c ∈ chars, c ∈ digits := by
  rw [← forall_mem_utf8_iff]
  intro b
  exact isSome_of_map_eq (forall₂_isCaseOf_iff.1 hcases)

theorem map_toLower_of_cases (hcases : List.Forall₂ IsCaseOf (encode bytes).toList chars) :
    chars.map Char.toLower = (encode bytes).toList := by
  rw [toList_encode] at hcases ⊢
  have hvalues : ∀ n ∈ nibbles bytes, n < 16 := fun n => lt_of_mem_nibbles
  -- From here on any values will do.
  generalize nibbles bytes = values at hcases hvalues
  induction values generalizing chars with
  | nil =>
      cases hcases
      rfl
  | cons n values ih =>
      obtain ⟨hn, hvalues⟩ := List.forall_mem_cons.1 hvalues
      cases hcases with
      | cons hcase hrest =>
          rw [List.map_cons, List.map_cons, toLower_of_isCaseOf hn hcase, ih hrest hvalues]

/-- A text decodes to bytes if its visible part is their encoding, in either case. -/
theorem decode_eq_ok_iff_visible :
    decode field = .ok bytes ↔
      List.Forall₂ IsCaseOf (encode bytes).toList (visible field.toList) := by
  rw [decode, compact_eq]
  by_cases hodd : (utf8 (visible field.toList)).length % 2 = 1
  · rw [if_pos hodd]
    refine iff_of_false (fun heq => nomatch heq) fun hcases => ?_
    rw [length_utf8_of_digits (mem_digits_of_cases hcases), length_of_cases hcases] at hodd
    omega
  · rw [if_neg hodd, decodePairs_eq_ok_iff (by omega), forall₂_isCaseOf_iff]

/-- What is decoded to bytes are the ways to write them. -/
theorem decode_eq_ok_iff : decode field = .ok bytes ↔ Spells bytes field.toList := by
  rw [decode_eq_ok_iff_visible]
  constructor
  · intro hcases
    exact ⟨_, hcases, spaced_visible _⟩
  · rintro ⟨chars, hcases, hspaced⟩
    rwa [hspaced.visible_eq fun c hc => isBlank_of_mem_digits (mem_digits_of_cases hcases c hc)]

theorem exists_decode_iff :
    (∃ bytes, decode field = .ok bytes) ↔ (visible field.toList).length % 2 = 0 ∧
      ∀ c ∈ visible field.toList, c ∈ digits := by
  constructor
  · rintro ⟨bytes, hdecode⟩
    have hcases := decode_eq_ok_iff_visible.1 hdecode
    refine ⟨?_, mem_digits_of_cases hcases⟩
    rw [length_of_cases hcases, Nat.mul_mod_right]
  · rintro ⟨heven, hdigits⟩
    obtain ⟨bytes, hbytes⟩ := exists_decodePairs (forall_mem_utf8_iff.2 hdigits) 0
    refine ⟨bytes, ?_⟩
    rw [decode, compact_eq, length_utf8_of_digits hdigits, if_neg (by omega), hbytes]

/-- An odd number of bytes is told of before any fault in them. -/
theorem decode_eq_error_oddLength_iff :
    decode field = .error .oddLength ↔ (utf8 (visible field.toList)).length % 2 = 1 := by
  rw [decode, compact_eq]
  by_cases hodd : (utf8 (visible field.toList)).length % 2 = 1
  · rw [if_pos hodd]
    exact iff_of_true rfl hodd
  · rw [if_neg hodd, decodePairs_eq_error_iff (by omega)]
    refine iff_of_false ?_ hodd
    rintro ⟨b, index, heq, -⟩
    cases heq

theorem decode_eq_error_invalidByte_iff {b : UInt8} :
    decode field = .error (.invalidByte b index) ↔
      (utf8 (visible field.toList)).length % 2 = 0 ∧
        IsFirstStray (utf8 (visible field.toList)) b index := by
  rw [decode, compact_eq]
  by_cases hodd : (utf8 (visible field.toList)).length % 2 = 1
  · rw [if_pos hodd]
    exact iff_of_false (fun heq => nomatch heq) fun ⟨heven, _⟩ => by omega
  · have heven : (utf8 (visible field.toList)).length % 2 = 0 := by omega
    rw [if_neg hodd, decodePairs_eq_error_iff heven, and_iff_right heven]
    constructor
    · rintro ⟨b, index, heq, hstray⟩
      cases heq
      exact hstray
    · intro hstray
      exact ⟨b, index, rfl, hstray⟩

theorem decode_eq_ok_nil_iff : decode field = .ok [] ↔ isBlankText field = true := by
  have hnone : (encode []).toList = [] := rfl
  rw [decode_eq_ok_iff_visible, hnone, List.forall₂_nil_left_iff, visible, List.filter_eq_nil_iff,
    isBlankText, List.all_eq_true]
  simp only [Bool.not_eq_true', Bool.not_eq_false]

/-! ### Fields that look like hexadecimal -/

theorem length_utf8_toList (field : String) : (utf8 field.toList).length = field.utf8ByteSize := by
  rw [← String.size_toByteArray, ← String.utf8Encode_toList, List.utf8Encode, utf8,
    List.size_toByteArray]

theorem visible_eq_self_iff {text : List Char} :
    visible text = text ↔ ∀ c ∈ text, isBlank c = false := by
  rw [visible, List.filter_eq_self]
  simp only [Bool.not_eq_true']

/-- The fields that look like hexadecimal are those that can be decoded and have no white space in
them, the empty one apart. -/
theorem isHex_iff :
    isHex field = true ↔ field ≠ "" ∧ (∀ c ∈ field.toList, isBlank c = false) ∧
      ∃ bytes, decode field = .ok bytes := by
  rw [exists_decode_iff, isHex]
  simp only [Bool.and_eq_true, Bool.not_eq_true', List.isEmpty_eq_false_iff, beq_iff_eq,
    List.all_eq_true, forall_mem_utf8_iff, ne_eq, utf8_eq_nil_iff, String.toList_eq_nil_iff]
  constructor
  · rintro ⟨⟨hne, heven⟩, hdigits⟩
    have hblank : ∀ c ∈ field.toList, isBlank c = false := fun c hc =>
      isBlank_of_mem_digits (hdigits c hc)
    rw [length_utf8_of_digits hdigits] at heven
    rw [visible_eq_self_iff.2 hblank]
    exact ⟨hne, hblank, heven, hdigits⟩
  · rintro ⟨hne, hblank, heven, hdigits⟩
    rw [visible_eq_self_iff.2 hblank] at heven hdigits
    rw [length_utf8_of_digits hdigits]
    exact ⟨⟨hne, heven⟩, hdigits⟩

/-- What looks like hexadecimal can be decoded, to one byte at least. -/
theorem exists_decode_of_isHex (hhex : isHex field = true) :
    ∃ bytes, decode field = .ok bytes ∧ bytes ≠ [] := by
  obtain ⟨hne, hblank, bytes, hdecode⟩ := isHex_iff.1 hhex
  refine ⟨bytes, hdecode, ?_⟩
  rintro rfl
  have hall := decode_eq_ok_nil_iff.1 hdecode
  rw [isBlankText, List.all_eq_true] at hall
  apply hne
  rw [← String.toList_eq_nil_iff, List.eq_nil_iff_forall_not_mem]
  intro c hc
  have hboth := hall c hc
  rw [hblank c hc] at hboth
  cases hboth

theorem length_of_isHex (hhex : isHex field = true) (hdecode : decode field = .ok bytes) :
    bytes.length = field.utf8ByteSize / 2 := by
  have hcases := decode_eq_ok_iff_visible.1 hdecode
  rw [visible_eq_self_iff.2 (isHex_iff.1 hhex).2.1] at hcases
  rw [← length_utf8_toList, length_utf8_of_digits (mem_digits_of_cases hcases),
    length_of_cases hcases, Nat.mul_div_cancel_left _ Nat.zero_lt_two]

end Hex

end FormatScan.Text
