import FormatScan.Json.Printer
import FormatScan.Json.Reader
import FormatScan.Proofs.Fallible

/-!
# Reading back texts and whole numbers

What is written between quotes is read as the text it was written for, whatever characters are in
it, and the digits of a whole number as that number, as long as it fits into 64 bits.
-/

namespace FormatScan.Json

variable {α β : Type} {rest : List Char} {place : Place} {n : Nat}

/-! ### Reading up to a place -/

/-- Reading does not fail, has `a` as its result and comes to where `rest` is left. -/
def Gives (r : Reading (α × Cursor)) (a : α) (rest : List Char) : Prop :=
  ∃ place, r = .ok (a, ⟨rest, place⟩)

theorem Gives.bind {r : Reading (α × Cursor)} {a : α} {f : α × Cursor → Reading (β × Cursor)}
    {b : β} {rest' : List Char} (hr : Gives r a rest)
    (hf : ∀ place, Gives (f (a, ⟨rest, place⟩)) b rest') : Gives (r >>= f) b rest' := by
  obtain ⟨place, rfl⟩ := hr
  exact hf place

theorem Gives.map {r : Reading (α × Cursor)} {a : α} (hr : Gives r a rest) (f : α → β) :
    Gives (r.map fun (a, c) => (f a, c)) (f a) rest := by
  obtain ⟨place, rfl⟩ := hr
  exact ⟨place, rfl⟩

theorem gives_ok (a : α) (rest : List Char) (place : Place) :
    Gives (.ok (a, ⟨rest, place⟩)) a rest :=
  ⟨place, rfl⟩

/-! ### Texts -/

theorem hexValue?_digitChar : ∀ d < 16, hexValue? d.digitChar = some d := by decide

theorem gives_readHex4 (hn : n < 32) (rest : List Char) (place : Place) :
    Gives (readHex4 ⟨['0', '0', (n / 16).digitChar, (n % 16).digitChar] ++ rest, place⟩)
      n rest := by
  have hhigh := hexValue?_digitChar (n / 16) (by omega)
  have hlow := hexValue?_digitChar (n % 16) (by omega)
  have hzero : hexValue? '0' = some 0 := by decide
  have hsize : ¬(['0', '0', (n / 16).digitChar, (n % 16).digitChar].foldr
      (fun ch m => ch.utf8Size + m) 0 < 4) := by
    have := (n / 16).digitChar.utf8Size_pos
    have := (n % 16).digitChar.utf8Size_pos
    have : '0'.utf8Size = 1 := by decide
    simp only [List.foldr_cons, List.foldr_nil]
    omega
  have hvalue : ((0 * 16 + 0) * 16 + n / 16) * 16 + n % 16 = n := by omega
  rw [readHex4]
  simp only [List.cons_append, List.nil_append, List.take_succ_cons, List.take_zero, hsize,
    if_false, List.mapM_cons, List.mapM_nil, hzero, hhigh, hlow, Option.bind_eq_bind,
    Option.bind_some, Option.pure_def, hvalue]
  exact gives_ok n rest _

/-- A control character is read back from its four digits. -/
theorem gives_readUnicodeEscape {c : Char} (hc : c.toNat < 32) (rest : List Char) (place : Place) :
    Gives (readUnicodeEscape
      ⟨['0', '0', (c.toNat / 16).digitChar, (c.toNat % 16).digitChar] ++ rest, place⟩) c rest := by
  refine (gives_readHex4 hc rest place).bind fun place => ?_
  dsimp only
  rw [if_neg (by omega), if_pos (by omega), Char.ofNat_toNat]
  exact gives_ok c rest place

def IsEscaped (c : Char) : Prop :=
  ∃ code, escapeChar c = '\\' :: code ∧
    ∀ rest place, Gives (readEscape ⟨code ++ rest, place⟩) c rest

theorem isEscaped_of_letter {c letter : Char} (hcode : escapeChar c = ['\\', letter])
    (hletter : simpleEscape? letter = some c) (hu : letter ≠ 'u') : IsEscaped c := by
  refine ⟨[letter], hcode, fun rest place => ?_⟩
  rw [readEscape]
  simp only [Cursor.head?, List.singleton_append, List.head?_cons, if_neg hu, hletter]
  exact gives_ok c rest _

/-- A character is written as itself or behind a backslash. -/
theorem escapeChar_cases (c : Char) :
    (escapeChar c = [c] ∧ c ≠ '"' ∧ c ≠ '\\' ∧ ¬c.toNat < 32) ∨ IsEscaped c := by
  by_cases hquote : c = '"'
  · subst hquote
    exact .inr (isEscaped_of_letter rfl rfl (by decide))
  by_cases hbackslash : c = '\\'
  · subst hbackslash
    exact .inr (isEscaped_of_letter rfl rfl (by decide))
  by_cases hb : c = '\x08'
  · subst hb
    exact .inr (isEscaped_of_letter rfl rfl (by decide))
  by_cases ht : c = '\t'
  · subst ht
    exact .inr (isEscaped_of_letter rfl rfl (by decide))
  by_cases hn : c = '\n'
  · subst hn
    exact .inr (isEscaped_of_letter rfl rfl (by decide))
  by_cases hf : c = '\x0C'
  · subst hf
    exact .inr (isEscaped_of_letter rfl rfl (by decide))
  by_cases hr : c = '\r'
  · subst hr
    exact .inr (isEscaped_of_letter rfl rfl (by decide))
  have hothers : escapeChar c = if c.toNat < 32 then
      ['\\', 'u', '0', '0', (c.toNat / 16).digitChar, (c.toNat % 16).digitChar] else [c] := by
    rw [escapeChar, if_neg hquote, if_neg hbackslash, if_neg hb, if_neg ht, if_neg hn, if_neg hf,
      if_neg hr]
  by_cases hcontrol : c.toNat < 32
  · rw [if_pos hcontrol] at hothers
    exact .inr ⟨_, hothers, fun rest place => gives_readUnicodeEscape hcontrol rest _⟩
  · rw [if_neg hcontrol] at hothers
    exact .inl ⟨hothers, hquote, hbackslash, hcontrol⟩

theorem length_escapeChar_pos (c : Char) : 0 < (escapeChar c).length := by
  rcases escapeChar_cases c with ⟨hplain, -⟩ | ⟨code, hcode, -⟩
  · rw [hplain]
    exact Nat.one_pos
  · rw [hcode]
    exact Nat.succ_pos _

/-- One character is read from what it is written as, and the others behind it. -/
theorem gives_readChars_cons {c : Char} {chars more : List Char} {fuel : Nat}
    (hrest : ∀ place, Gives (readChars fuel ⟨more, place⟩) chars rest) (place : Place) :
    Gives (readChars (fuel + 1) ⟨escapeChar c ++ more, place⟩) (c :: chars) rest := by
  have hcons (place : Place) :
      Gives (readChars fuel ⟨more, place⟩ >>= fun read => pure (c :: read.1, read.2))
        (c :: chars) rest :=
    (hrest place).bind fun place => gives_ok (c :: chars) rest place
  rcases escapeChar_cases c with ⟨hplain, hquote, hbackslash, hcontrol⟩ | ⟨code, hcode, hread⟩
  · rw [hplain, List.singleton_append, readChars]
    simp only [Cursor.head?, List.head?_cons, if_neg hquote, if_neg hcontrol, if_neg hbackslash]
    exact hcons _
  · rw [hcode, List.cons_append, readChars]
    exact (hread more _).bind hcons

theorem gives_readChars (chars rest : List Char) {fuel : Nat} (hfuel : chars.length < fuel)
    (place : Place) :
    Gives (readChars fuel ⟨chars.flatMap escapeChar ++ '"' :: rest, place⟩) chars rest := by
  induction chars generalizing fuel place with
  | nil =>
      obtain ⟨fuel, rfl⟩ := Nat.exists_eq_succ_of_ne_zero (Nat.ne_of_gt hfuel)
      exact gives_ok [] rest _
  | cons c chars ih =>
      obtain ⟨fuel, rfl⟩ := Nat.exists_eq_succ_of_ne_zero (Nat.ne_of_gt (Nat.zero_lt_of_lt hfuel))
      rw [List.flatMap_cons, List.append_assoc]
      exact gives_readChars_cons (ih (Nat.lt_of_succ_lt_succ hfuel)) place

theorem length_le_length_escaped (chars : List Char) :
    chars.length ≤ (chars.flatMap escapeChar).length := by
  induction chars with
  | nil => exact Nat.le_refl 0
  | cons c chars ih =>
      have := length_escapeChar_pos c
      rw [List.flatMap_cons, List.length_append, List.length_cons]
      omega

theorem toList_renderString (s : String) :
    (renderString s).toList = '"' :: (s.toList.flatMap escapeChar ++ ['"']) := by
  rw [renderString]
  simp

/-- Every text is read back. -/
theorem gives_readString (s : String) (rest : List Char) (place : Place) :
    Gives (readString ⟨(renderString s).toList ++ rest, place⟩) s rest := by
  have hfuel : s.toList.length < (s.toList.flatMap escapeChar ++ '"' :: rest).length + 1 := by
    have := length_le_length_escaped s.toList
    rw [List.length_append]
    omega
  rw [toList_renderString, List.cons_append, List.append_assoc, List.singleton_append]
  refine (gives_readChars s.toList rest hfuel _).bind fun place => ?_
  dsimp only
  rw [String.ofList_toList]
  exact gives_ok s rest place

/-! ### Whole numbers -/

/-- What may follow a value that is part of a list or an object, or nothing. -/
def Ends (rest : List Char) : Prop :=
  ∀ ch ∈ rest.head?, ch = ',' ∨ ch = ']' ∨ ch = '\x7d' ∨ ch.isWhitespace = true

theorem Ends.isDigit_eq_false {ch : Char} (hrest : Ends (ch :: rest)) : ch.isDigit = false := by
  rcases hrest ch rfl with rfl | rfl | rfl | hblank
  · rfl
  · rfl
  · rfl
  · simp only [Char.isWhitespace, Bool.or_eq_true, decide_eq_true_eq] at hblank
    rcases hblank with ((rfl | rfl) | rfl) | rfl <;> rfl

theorem Ends.head?_ne (hrest : Ends rest) {ch : Char}
    (hch : ch ≠ ',' ∧ ch ≠ ']' ∧ ch ≠ '\x7d' ∧ ch.isWhitespace = false) :
    rest.head? ≠ some ch := by
  intro hhead
  rcases hrest ch hhead with rfl | rfl | rfl | hblank
  · exact hch.1 rfl
  · exact hch.2.1 rfl
  · exact hch.2.2.1 rfl
  · exact Bool.false_ne_true (hch.2.2.2.symm.trans hblank)

theorem le_ofDigitChars (digits : List Char) (value : Nat) :
    value ≤ Nat.ofDigitChars 10 digits value := by
  rw [Nat.ofDigitChars_eq_ofDigitChars_zero]
  exact Nat.le_add_right_of_le (Nat.le_mul_of_pos_left value (Nat.pos_of_ne_zero (by simp)))

/-- The digits of a number that fits are read up to what follows. -/
theorem readDigits_append (hrest : Ends rest) {digits : List Char}
    (hdigits : ∀ ch ∈ digits, ch.isDigit = true) {value : Nat}
    (hvalue : Nat.ofDigitChars 10 digits value ≤ maxNat) (place : Place) :
    ∃ place', readDigits value (digits ++ rest) place =
      (Nat.ofDigitChars 10 digits value, ⟨rest, place'⟩, false) := by
  induction digits generalizing value place with
  | nil =>
      cases rest with
      | nil => exact ⟨place, rfl⟩
      | cons ch rest =>
          refine ⟨place, ?_⟩
          rw [List.nil_append, readDigits, hrest.isDigit_eq_false]
          rfl
  | cons ch digits ih =>
      have hnext : Nat.ofDigitChars 10 (ch :: digits) value =
          Nat.ofDigitChars 10 digits (value * 10 + (ch.toNat - 48)) := by
        rw [Nat.ofDigitChars_cons, Nat.mul_comm]
        rfl
      rw [hnext] at hvalue ⊢
      have hfits := Nat.le_trans (le_ofDigitChars digits _) hvalue
      rw [List.cons_append, readDigits, if_pos (hdigits ch List.mem_cons_self)]
      dsimp only
      rw [if_neg (Nat.not_lt.2 hfits)]
      exact ih (fun d hd => hdigits d (List.mem_cons_of_mem ch hd)) hvalue _

/-- Only the number zero is written with a zero in front. -/
theorem head?_toDigits_ne_zero (hn : 0 < n) : (Nat.toDigits 10 n).head? ≠ some '0' := by
  induction n using Nat.strongRecOn with
  | ind n ih =>
      by_cases hlt : n < 10
      · rw [Nat.toDigits_of_lt_base hlt, List.head?_cons, ne_eq, Option.some.injEq,
          Nat.digitChar_eq_zero]
        exact Nat.ne_of_gt hn
      · obtain ⟨ch, digits, hdigits⟩ :=
          List.exists_cons_of_ne_nil (Nat.toDigits_ne_nil (n := n / 10) (b := 10))
        have hhead := ih (n / 10) (by omega) (by omega)
        rw [Nat.toDigits_of_base_le (by decide) (Nat.not_lt.1 hlt), hdigits]
        rwa [hdigits] at hhead

/-- A number is written without leading zeros, which would be a fault. -/
theorem readNumber_toDigits (positive : Bool) (hn : n ≤ maxNat) (hrest : Ends rest)
    (place : Place) :
    ∃ place', readNumber positive ⟨Nat.toDigits 10 n ++ rest, place⟩ =
      readNumberRest positive n ⟨rest, place'⟩ := by
  rcases Nat.eq_zero_or_pos n with rfl | hpos
  · have hnext : (rest.head?.map Char.isDigit).getD false = false := by
      cases rest with
      | nil => rfl
      | cons ch rest => exact hrest.isDigit_eq_false
    refine ⟨⟨place.line, place.column + 1⟩, ?_⟩
    rw [Nat.toDigits_zero, List.singleton_append, readNumber]
    simp only [Cursor.head?, List.head?_cons, if_true, Cursor.bump, hnext]
    rfl
  · have hhead := head?_toDigits_ne_zero hpos
    have hdigits : ∀ ch ∈ Nat.toDigits 10 n, ch.isDigit = true :=
      fun ch => Nat.isDigit_of_mem_toDigits (by decide) (by decide)
    have hvalue : Nat.ofDigitChars 10 (Nat.toDigits 10 n) 0 = n := Nat.ofDigitChars_ten_toDigits
    obtain ⟨place', hread⟩ := readDigits_append hrest hdigits (hvalue ▸ hn) place
    refine ⟨place', ?_⟩
    obtain ⟨ch, digits, heq⟩ := List.exists_cons_of_ne_nil (Nat.toDigits_ne_nil (n := n) (b := 10))
    rw [heq] at hhead hdigits hread hvalue ⊢
    have hch : ch ≠ '0' := fun h => hhead (congrArg some h)
    rw [List.cons_append, hvalue] at hread
    rw [List.cons_append, readNumber]
    simp only [Cursor.head?, List.head?_cons, if_neg hch, hdigits ch List.mem_cons_self, if_true,
      hread, Bool.false_eq_true, if_false]

theorem readNumberRest_of_ends (positive : Bool) (hrest : Ends rest) (place : Place) :
    readNumberRest positive n ⟨rest, place⟩ =
      if positive then .ok (.nat n, ⟨rest, place⟩)
      else if n = 0 ∨ UInt64.size / 2 < n then .ok (.float (-(Float.ofNat n)), ⟨rest, place⟩)
      else .ok (.negative (-(n : Int)), ⟨rest, place⟩) := by
  have hpoint : rest.head? ≠ some '.' := hrest.head?_ne (by decide)
  have hmark : isExponentMark rest.head? = false := by
    rw [isExponentMark, Bool.or_eq_false_iff, beq_eq_false_iff_ne, beq_eq_false_iff_ne]
    exact ⟨hrest.head?_ne (by decide), hrest.head?_ne (by decide)⟩
  rw [readNumberRest, Cursor.head?, if_neg hpoint, hmark]
  rfl

theorem gives_readNumber_nat (hn : n ≤ maxNat) (hrest : Ends rest) (place : Place) :
    Gives (readNumber true ⟨(toString n).toList ++ rest, place⟩) (.nat n) rest := by
  rw [Nat.toString_eq_repr, Nat.toList_repr]
  obtain ⟨place', hread⟩ := readNumber_toDigits true hn hrest place
  rw [hread, readNumberRest_of_ends true hrest]
  exact gives_ok _ rest place'

theorem gives_readNumber_negative (hn : 0 < n ∧ n ≤ UInt64.size / 2) (hrest : Ends rest)
    (place : Place) :
    Gives (readNumber false ⟨(toString n).toList ++ rest, place⟩) (.negative (-(n : Int)))
      rest := by
  have hmax : n ≤ maxNat := Nat.le_trans hn.2 (by decide)
  rw [Nat.toString_eq_repr, Nat.toList_repr]
  obtain ⟨place', hread⟩ := readNumber_toDigits false hmax hrest place
  rw [hread, readNumberRest_of_ends false hrest, if_neg Bool.false_ne_true, if_neg (by omega)]
  exact gives_ok _ rest place'

end FormatScan.Json
