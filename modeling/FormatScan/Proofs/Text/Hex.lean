import Mathlib.Data.List.Forall2
import Mathlib.Data.List.Induction
import FormatScan.Proofs.Fallible
import FormatScan.Proofs.Text.ByteOrder

/-!
# Digits in hexadecimal

Digits are written with one byte each, and no byte of another character is one. Pairs of digits are
decoded to the bytes whose halves are their values, and of other bytes the first one that is no
digit is told.
-/

namespace FormatScan.Text.Hex

variable {bytes text values : List UInt8} {index : Nat} {b n : UInt8} {c : Char}
  {chars : List Char}

/-! ### White space -/

/-- The numbers of the characters with the property `White_Space`. -/
def blankPoints : List Nat :=
  [9, 10, 11, 12, 13, 32, 0x85, 0xA0, 0x1680, 0x2000, 0x2001, 0x2002, 0x2003, 0x2004, 0x2005,
    0x2006, 0x2007, 0x2008, 0x2009, 0x200A, 0x2028, 0x2029, 0x202F, 0x205F, 0x3000]

theorem isBlank_iff_mem_blankPoints : isBlank c = true ↔ c.toNat ∈ blankPoints := by
  simp only [isBlank, Bool.or_eq_true, Bool.and_eq_true, decide_eq_true_iff, beq_iff_eq,
    blankPoints, List.mem_cons, List.not_mem_nil, or_false]
  constructor <;> omega

/-! ### Digits and their bytes -/

def digits : List Char := "0123456789abcdefABCDEF".toList

theorem forall_byte {p : UInt8 → Prop} (hall : ∀ n : Fin 256, p (.ofFin n)) (b : UInt8) : p b :=
  hall b.toFin

theorem forall_mem_digits {p : Char → Prop} (hall : ∀ i : Fin 22, p digits[i]) {c : Char}
    (hc : c ∈ digits) : p c := by
  obtain ⟨i, hi, rfl⟩ := List.mem_iff_getElem.1 hc
  exact hall ⟨i, hi⟩

theorem isBlank_of_mem_digits (hc : c ∈ digits) : isBlank c = false := by
  revert c
  apply forall_mem_digits
  decide

/-- A digit is one byte. -/
theorem utf8EncodeChar_of_mem_digits (hc : c ∈ digits) :
    String.utf8EncodeChar c = [.ofNat c.toNat] := by
  revert c
  apply forall_mem_digits
  decide

theorem isSome_digitValue?_of_mem (hc : c ∈ digits) :
    (digitValue? (.ofNat c.toNat)).isSome = true ∧ c.toNat < 256 := by
  revert c
  apply forall_mem_digits
  decide

theorem mem_utf8_digits_of_isSome (hvalue : (digitValue? b).isSome = true) : b ∈ utf8 digits := by
  revert b
  apply forall_byte
  decide +kernel

/-- The bytes with a value are those of the digits. -/
theorem isSome_digitValue?_iff : (digitValue? b).isSome = true ↔ b ∈ utf8 digits := by
  refine ⟨mem_utf8_digits_of_isSome, fun hb => ?_⟩
  obtain ⟨c, hc, hb⟩ := List.mem_flatMap.1 hb
  rw [utf8EncodeChar_of_mem_digits hc, List.mem_singleton] at hb
  rw [hb]
  exact (isSome_digitValue?_of_mem hc).1

theorem digitValue?_of_le (hb : 128 ≤ b) : digitValue? b = none := by
  rw [UInt8.le_iff_toNat_le] at hb
  have hnot : ∀ low high : UInt8, high.toNat < 128 → ¬(low ≤ b ∧ b ≤ high) := by
    intro low high hhigh ⟨_, hle⟩
    rw [UInt8.le_iff_toNat_le] at hle
    exact absurd (Nat.le_trans hb hle) (Nat.not_le_of_lt hhigh)
  rw [digitValue?, if_neg (hnot _ _ (by decide)), if_neg (hnot _ _ (by decide)),
    if_neg (hnot _ _ (by decide))]

/-- A character that is no digit has a byte that is none. -/
theorem exists_not_digit_of_notMem (hc : c ∉ digits) :
    ∃ b ∈ String.utf8EncodeChar c, digitValue? b = none := by
  rw [String.utf8EncodeChar]
  by_cases hascii : c.val.toNat ≤ 127
  · refine ⟨.ofNat c.toNat, ?_, ?_⟩
    · simp only [if_pos hascii]
      exact List.mem_singleton_self _
    · by_contra hvalue
      have hmem := mem_utf8_digits_of_isSome (Option.isSome_iff_ne_none.2 hvalue)
      obtain ⟨d, hd, hbyte⟩ := List.mem_flatMap.1 hmem
      have hlt : c.toNat < 256 := Nat.lt_of_le_of_lt hascii (by decide)
      rw [utf8EncodeChar_of_mem_digits hd, List.mem_singleton,
        byte_eq_iff hlt (isSome_digitValue?_of_mem hd).2] at hbyte
      rw [Char.toNat_inj.1 hbyte] at hc
      exact hc hd
  · -- The last one of several bytes is none.
    refine ⟨.ofNat (c.val.toNat % 64 + 128), ?_, digitValue?_of_le ?_⟩
    · simp only [if_neg hascii]
      split_ifs <;> simp only [List.mem_cons, true_or, or_true]
    · rw [UInt8.le_iff_toNat_le, UInt8.toNat_ofNat']
      change 128 ≤ _
      omega

theorem utf8_eq_nil_iff {chars : List Char} : utf8 chars = [] ↔ chars = [] := by
  rw [utf8, List.flatMap_eq_nil_iff, List.eq_nil_iff_forall_not_mem]
  apply forall_congr'
  intro c
  have hne : String.utf8EncodeChar c ≠ [] := by
    rw [← List.length_pos_iff, String.length_utf8EncodeChar]
    exact c.utf8Size_pos
  exact imp_congr_right fun _ => iff_false_intro hne

theorem forall_mem_utf8_iff :
    (∀ b ∈ utf8 chars, (digitValue? b).isSome = true) ↔ ∀ c ∈ chars, c ∈ digits := by
  constructor
  · intro hbytes c hc
    by_contra hstray
    obtain ⟨b, hb, hnone⟩ := exists_not_digit_of_notMem hstray
    have hdigit := hbytes b (List.mem_flatMap.2 ⟨c, hc, hb⟩)
    rw [hnone] at hdigit
    cases hdigit
  · intro hchars b hb
    obtain ⟨c, hc, hb⟩ := List.mem_flatMap.1 hb
    exact isSome_digitValue?_iff.2 (List.mem_flatMap.2 ⟨c, hchars c hc, hb⟩)

theorem length_utf8_of_digits (hchars : ∀ c ∈ chars, c ∈ digits) :
    (utf8 chars).length = chars.length := by
  induction chars with
  | nil => rfl
  | cons c chars ih =>
      obtain ⟨hc, hchars⟩ := List.forall_mem_cons.1 hchars
      rw [utf8, List.flatMap_cons, utf8EncodeChar_of_mem_digits hc, List.length_append,
        List.length_cons, List.length_cons, List.length_nil, ← utf8, ih hchars]
      omega

/-! ### The values of digits -/

/-- A digit, or the capital letter in its place. -/
def IsCaseOf (digit c : Char) : Prop := c = digit ∨ c = digit.toUpper

instance (digit c : Char) : Decidable (IsCaseOf digit c) := inferInstanceAs (Decidable (_ ∨ _))

def nibbles (bytes : List UInt8) : List UInt8 := bytes.flatMap fun b => [b / 16, b % 16]

theorem toList_encode (bytes : List UInt8) :
    (encode bytes).toList = (nibbles bytes).map lowerDigit := by
  rw [encode, String.toList_ofList, nibbles, List.map_flatMap]
  rfl

theorem nibbles_cons (b : UInt8) (bytes : List UInt8) :
    nibbles (b :: bytes) = b / 16 :: b % 16 :: nibbles bytes := rfl

theorem length_nibbles (bytes : List UInt8) : (nibbles bytes).length = 2 * bytes.length := by
  induction bytes with
  | nil => rfl
  | cons b bytes ih =>
      rw [nibbles_cons, List.length_cons, List.length_cons, List.length_cons, ih]
      omega

theorem lt_of_mem_nibbles (hn : n ∈ nibbles bytes) : n < 16 := by
  obtain ⟨b, -, hn⟩ := List.mem_flatMap.1 hn
  simp only [List.mem_cons, List.not_mem_nil, or_false] at hn
  rcases hn with rfl | rfl <;> grind

theorem forall_nibble {p : UInt8 → Prop} (hall : ∀ i : Fin 16, p (.ofNat i)) {n : UInt8}
    (hn : n < 16) : p n := by
  have hp := hall ⟨n.toNat, UInt8.lt_iff_toNat_lt.1 hn⟩
  rwa [UInt8.ofNat_toNat] at hp

theorem lt_of_digitValue? (hvalue : digitValue? b = some n) : n < 16 := by
  rw [digitValue?] at hvalue
  split_ifs at hvalue <;> cases hvalue <;> grind

theorem mem_digits_of_isCaseOf (hn : n < 16) (hcase : IsCaseOf (lowerDigit n) c) : c ∈ digits := by
  have hboth : lowerDigit n ∈ digits ∧ (lowerDigit n).toUpper ∈ digits := by
    clear hcase
    revert n
    apply forall_nibble
    decide
  rcases hcase with rfl | rfl
  · exact hboth.1
  · exact hboth.2

theorem toLower_of_isCaseOf (hn : n < 16) (hcase : IsCaseOf (lowerDigit n) c) :
    c.toLower = lowerDigit n := by
  have hboth : (lowerDigit n).toLower = lowerDigit n ∧
      (lowerDigit n).toUpper.toLower = lowerDigit n := by
    clear hcase
    revert n
    apply forall_nibble
    decide
  rcases hcase with rfl | rfl
  · exact hboth.1
  · exact hboth.2

/-- A digit has its value in either case. -/
theorem digitValue?_eq_some_iff (hn : n < 16) (hc : c ∈ digits) :
    digitValue? (.ofNat c.toNat) = some n ↔ IsCaseOf (lowerDigit n) c := by
  revert n
  apply forall_nibble
  revert c
  apply forall_mem_digits
  decide +kernel

theorem isSome_of_map_eq (heq : text.map digitValue? = values.map some) (hb : b ∈ text) :
    (digitValue? b).isSome = true := by
  have hmem : digitValue? b ∈ text.map digitValue? := List.mem_map_of_mem hb
  rw [heq] at hmem
  obtain ⟨n, -, hn⟩ := List.mem_map.1 hmem
  rw [← hn]
  rfl

/-- The bytes of a text are digits of certain values exactly if its characters are. -/
theorem map_digitValue?_utf8_iff (hvalues : ∀ n ∈ values, n < 16) :
    (utf8 chars).map digitValue? = values.map some ↔
      List.Forall₂ IsCaseOf (values.map lowerDigit) chars := by
  induction chars generalizing values with
  | nil =>
      rw [List.forall₂_nil_right_iff, List.map_eq_nil_iff]
      exact eq_comm.trans List.map_eq_nil_iff
  | cons c chars ih =>
      by_cases hc : c ∈ digits
      · cases values with
        | nil =>
            rw [utf8, List.flatMap_cons, utf8EncodeChar_of_mem_digits hc]
            refine iff_of_false (fun heq => ?_) fun hcases => ?_
            · cases heq
            · cases hcases
        | cons n values =>
            obtain ⟨hn, hvalues⟩ := List.forall_mem_cons.1 hvalues
            rw [utf8, List.flatMap_cons, utf8EncodeChar_of_mem_digits hc, ← utf8,
              List.singleton_append, List.map_cons, List.map_cons, List.cons.injEq,
              digitValue?_eq_some_iff hn hc, ih hvalues, List.map_cons, List.forall₂_cons]
      · refine iff_of_false (fun heq => ?_) fun hcases => ?_
        · have hdigits := forall_mem_utf8_iff.1 fun b => isSome_of_map_eq heq
          exact hc (hdigits c List.mem_cons_self)
        · cases values with
          | nil => cases hcases
          | cons n values =>
              obtain ⟨hcase, -⟩ := List.forall₂_cons.1 hcases
              exact hc (mem_digits_of_isCaseOf (hvalues n List.mem_cons_self) hcase)

/-! ### Pairs -/

/-- The first byte that is no digit, and the number of bytes in front of it. -/
def IsFirstStray (text : List UInt8) (b : UInt8) (index : Nat) : Prop :=
  ∃ before after, text = before ++ b :: after ∧ before.length = index ∧
    (∀ d ∈ before, d ∈ utf8 digits) ∧ b ∉ utf8 digits

theorem exists_decodePairs (hdigits : ∀ b ∈ bytes, (digitValue? b).isSome = true) (index : Nat) :
    ∃ decoded, decodePairs index bytes = .ok decoded := by
  induction index, bytes using decodePairs.induct with
  | case1 index high low rest hhigh =>
      have hdigit := hdigits high List.mem_cons_self
      rw [hhigh] at hdigit
      cases hdigit
  | case2 index high low rest value hlow hhigh =>
      have hdigit := hdigits low (List.mem_cons_of_mem _ List.mem_cons_self)
      rw [hlow] at hdigit
      cases hdigit
  | case3 index high low rest highValue lowValue hlow hhigh ih =>
      obtain ⟨values, hrest⟩ := ih fun b hb =>
        hdigits b (List.mem_cons_of_mem _ (List.mem_cons_of_mem _ hb))
      refine ⟨(highValue * 16 + lowValue) :: values, ?_⟩
      simp only [decodePairs, hhigh, hlow, hrest]
      rfl
  | case4 bytes index hpairs =>
      refine ⟨[], ?_⟩
      rw [decodePairs]
      exact hpairs

/-- Pairs decode to the bytes whose halves the digits are. -/
theorem decodePairs_eq_ok_iff (heven : text.length % 2 = 0) :
    decodePairs index text = .ok bytes ↔ text.map digitValue? = (nibbles bytes).map some := by
  -- The induction follows the pairs.
  induction index, text using decodePairs.induct generalizing bytes with
  | case1 index high low rest hhigh =>
      rw [decodePairs, hhigh]
      refine iff_of_false (fun heq => nomatch heq) fun heq => ?_
      have hdigit := isSome_of_map_eq heq List.mem_cons_self
      rw [hhigh] at hdigit
      cases hdigit
  | case2 index high low rest value hlow hhigh =>
      rw [decodePairs, hhigh, hlow]
      refine iff_of_false (fun heq => nomatch heq) fun heq => ?_
      have hdigit := isSome_of_map_eq heq (List.mem_cons_of_mem _ List.mem_cons_self)
      rw [hlow] at hdigit
      cases hdigit
  | case3 index high low rest highValue lowValue hlow hhigh ih =>
      have hrest : rest.length % 2 = 0 := by
        rw [List.length_cons, List.length_cons] at heven
        omega
      have hhighLt := lt_of_digitValue? hhigh
      have hlowLt := lt_of_digitValue? hlow
      rw [decodePairs, hhigh, hlow, List.map_cons, List.map_cons, hhigh, hlow]
      cases bytes with
      | nil =>
          refine iff_of_false (fun heq => ?_) fun heq => nomatch heq
          obtain ⟨values, -, hvalues⟩ := map_eq_ok.1 heq
          cases hvalues
      | cons b bytes =>
          rw [nibbles_cons, List.map_cons, List.map_cons, List.cons.injEq, List.cons.injEq,
            Option.some.injEq, Option.some.injEq, ← ih hrest]
          constructor
          · intro heq
            obtain ⟨values, hvalues, hcons⟩ := map_eq_ok.1 heq
            obtain ⟨rfl, rfl⟩ := List.cons.inj hcons
            exact ⟨by grind, by grind, hvalues⟩
          · rintro ⟨rfl, rfl, hvalues⟩
            have hb : b / 16 * 16 + b % 16 = b := by grind
            simp only [hvalues, hb]
            rfl
  | case4 text index hpairs =>
      have hnil : text = [] := by
        rcases text with _ | ⟨high, _ | ⟨low, rest⟩⟩
        · rfl
        · cases heven
        · exact absurd rfl (hpairs high low rest)
      subst hnil
      rw [decodePairs, Except.ok.injEq, List.map_nil]
      · cases bytes with
        | nil => exact iff_of_true rfl rfl
        | cons b bytes => exact iff_of_false (fun heq => nomatch heq) fun heq => nomatch heq
      · exact hpairs

/-- The first byte that is no digit is told, wherever it stands in its pair. -/
theorem decodePairs_of_stray {before after : List UInt8} {b : UInt8}
    (heven : (before ++ b :: after).length % 2 = 0)
    (hbefore : ∀ d ∈ before, (digitValue? d).isSome = true) (hb : digitValue? b = none) :
    decodePairs index (before ++ b :: after) = .error (.invalidByte b (index + before.length)) := by
  -- The induction takes a pair of digits in each step.
  induction before using List.twoStepInduction generalizing index with
  | nil =>
      cases after with
      | nil => cases heven
      | cons low after =>
          rw [List.nil_append, decodePairs, hb]
          rfl
  | singleton high =>
      obtain ⟨value, hhigh⟩ := Option.isSome_iff_exists.1 (hbefore high List.mem_cons_self)
      rw [List.singleton_append, decodePairs, hhigh, hb]
      rfl
  | cons_cons high low before ih =>
      obtain ⟨hhigh, hrest⟩ := List.forall_mem_cons.1 hbefore
      obtain ⟨hlow, hbefore⟩ := List.forall_mem_cons.1 hrest
      obtain ⟨highValue, hhigh⟩ := Option.isSome_iff_exists.1 hhigh
      obtain ⟨lowValue, hlow⟩ := Option.isSome_iff_exists.1 hlow
      have heven : (before ++ b :: after).length % 2 = 0 := by
        rw [List.cons_append, List.cons_append, List.length_cons, List.length_cons] at heven
        omega
      have hindex : index + 2 + before.length = index + (high :: low :: before).length := by
        rw [List.length_cons, List.length_cons]
        omega
      rw [List.cons_append, List.cons_append, decodePairs, hhigh, hlow]
      simp only [ih heven hbefore, hindex]
      rfl

theorem exists_isFirstStray (hstray : ¬∀ d ∈ text, (digitValue? d).isSome = true) :
    ∃ b index, IsFirstStray text b index := by
  cases hfind : text.find? fun d => !(digitValue? d).isSome with
  | none =>
      rw [List.find?_eq_none] at hfind
      refine absurd (fun d hd => ?_) hstray
      rw [← Bool.not_eq_false, ← Bool.not_eq_true']
      exact hfind d hd
  | some b =>
      obtain ⟨hb, before, after, htext, hbefore⟩ := List.find?_eq_some_iff_append.1 hfind
      refine ⟨b, before.length, before, after, htext, rfl, fun d hd => ?_, ?_⟩
      · rw [← isSome_digitValue?_iff, ← Bool.not_not (digitValue? d).isSome]
        exact hbefore d hd
      · rw [← isSome_digitValue?_iff, Bool.not_eq_true, ← Bool.not_eq_true']
        exact hb

theorem decodePairs_of_isFirstStray {b : UInt8} (heven : text.length % 2 = 0)
    (hstray : IsFirstStray text b index) : decodePairs 0 text = .error (.invalidByte b index) := by
  obtain ⟨before, after, rfl, rfl, hbefore, hb⟩ := hstray
  rw [decodePairs_of_stray heven, Nat.zero_add]
  · exact fun d hd => isSome_digitValue?_iff.2 (hbefore d hd)
  · rw [← Option.not_isSome_iff_eq_none, isSome_digitValue?_iff]
    exact hb

/-- Decoding fails at the first byte that is no digit. -/
theorem decodePairs_eq_error_iff {e : DecodeError} (heven : text.length % 2 = 0) :
    decodePairs 0 text = .error e ↔ ∃ b index, e = .invalidByte b index ∧
      IsFirstStray text b index := by
  constructor
  · intro hdecode
    have hdigits : ¬∀ d ∈ text, (digitValue? d).isSome = true := by
      intro hdigits
      obtain ⟨bytes, hbytes⟩ := exists_decodePairs hdigits 0
      rw [hbytes] at hdecode
      cases hdecode
    obtain ⟨b, index, hstray⟩ := exists_isFirstStray hdigits
    rw [decodePairs_of_isFirstStray heven hstray] at hdecode
    exact ⟨b, index, (Except.error.inj hdecode).symm, hstray⟩
  · rintro ⟨b, index, rfl, hstray⟩
    exact decodePairs_of_isFirstStray heven hstray

end FormatScan.Text.Hex
