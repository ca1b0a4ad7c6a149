import FormatScan.Pattern
import FormatScan.Proofs.Fallible
import FormatScan.Proofs.Text.Hex
import FormatScan.Regex.Meaning

/-!
# Bytes written as escapes

A byte that is written as an escape in hexadecimal is read as a literal that asks for this byte.
What the compiler puts in front of the bytes and behind them is read as a part of its own, so that
the parts at the beginning of an expression are known before the rest of it is.
-/

namespace FormatScan.Regex

open Text.Hex

/-! ### The cursor -/

namespace Cursor

variable {ch : Char} {rest : List Char} {p : Position}

theorem head?_cons : (⟨ch :: rest, p⟩ : Cursor).head? = some ch := rfl

theorem bump_cons : (⟨ch :: rest, p⟩ : Cursor).bump = ⟨rest, p.after ch⟩ := rfl

theorem skipSpace_false (c : Cursor) : c.skipSpace false = c := rfl

theorem bumpSpace_false (c : Cursor) : c.bumpSpace false = c.bump := rfl

end Cursor

/-! ### One byte -/

theorem hexValue?_upperDigit_high (b : UInt8) :
    hexValue? (upperDigit (b / 16)) = some (b.toNat / 16) := by
  revert b
  apply forall_byte
  decide +kernel

theorem hexValue?_upperDigit_low (b : UInt8) :
    hexValue? (upperDigit (b % 16)) = some (b.toNat % 16) := by
  revert b
  apply forall_byte
  decide +kernel

theorem upperDigit_ne_brace (b : UInt8) : upperDigit (b / 16) ≠ '{' := by
  revert b
  apply forall_byte
  decide +kernel

theorem scalar?_byte (b : UInt8) : scalar? b.toNat = some (Char.ofNat b.toNat) := by
  have hlt : b.toNat < 0xD800 := Nat.lt_trans (UInt8.toNat_lt b) (by decide)
  simp [scalar?, hlt]

theorem toNat_ofNat_byte (b : UInt8) : (Char.ofNat b.toNat).toNat = b.toNat := by
  have hvalid : b.toNat.isValidChar := Or.inl (Nat.lt_trans (UInt8.toNat_lt b) (by decide))
  rw [Char.ofNat, dif_pos hvalid]
  rfl

def Position.afterAll (p : Position) (text : List Char) : Position := text.foldl Position.after p

/-- What the escape of a byte is read as. -/
def byteLiteral (p : Position) (b : UInt8) : Ast :=
  .literal ⟨⟨p, p.afterAll (escapeByte b)⟩, Char.ofNat b.toNat, true⟩

/-- The escape of a byte is read as that byte. -/
theorem readEscape_escapeByte (b : UInt8) (rest : List Char) (p : Position) :
    readEscape false ⟨escapeByte b ++ rest, p⟩ =
      .ok (byteLiteral p b, ⟨rest, p.afterAll (escapeByte b)⟩) := by
  have hhigh := hexValue?_upperDigit_high b
  have hlow := hexValue?_upperDigit_low b
  have hbrace := upperDigit_ne_brace b
  have hvalue : b.toNat / 16 * 16 + b.toNat % 16 = b.toNat := Nat.div_add_mod' _ _
  simp [readEscape, escapeByte, readHex, readHexDigits, hhigh, hlow, hvalue, scalar?_byte,
    ok_bind, Cursor.head?_cons, Cursor.bump_cons, Cursor.bumpSpace_false, Cursor.spanFrom,
    byteLiteral, Position.afterAll, Pure.pure, Except.pure]

theorem toExpr_byteLiteral (p : Position) (b : UInt8) :
    (byteLiteral p b).toExpr (.start false) = .ok (.byte (.single b.toNat), .start false) := by
  have hlt : b.toNat < 256 := UInt8.toNat_lt b
  simp [byteLiteral, Ast.toExpr, Literal.toExpr, Literal.byte?, toNat_ofNat_byte, hlt, Modes.start,
    Modes.checkText, closeBytes, ok_bind, Pure.pure, Except.pure]

/-! ### Several bytes -/

def byteLiterals (p : Position) : List UInt8 → List Ast
  | [] => []
  | b :: text => byteLiteral p b :: byteLiterals (p.afterAll (escapeByte b)) text

/-- Escapes ask for their bytes in a row. -/
theorem toExprs_byteLiterals (p : Position) (text : List UInt8) :
    Ast.toExprs (.start false) (byteLiterals p text) =
      .ok (text.map fun b => .byte (.single b.toNat), .start false) := by
  induction text generalizing p with
  | nil => rfl
  | cons b text ih =>
      rw [byteLiterals, Ast.toExprs, toExpr_byteLiteral, ok_bind]
      simp only [ih, ok_bind]
      rfl

theorem length_escapes (head : List UInt8) :
    (head.flatMap escapeByte).length = 4 * head.length := by
  induction head with
  | nil => rfl
  | cons b head ih =>
      have hfour : (escapeByte b).length = 4 := rfl
      rw [List.flatMap_cons, List.length_append, ih, hfour, List.length_cons]
      omega

theorem length_byteLiterals (p : Position) (text : List UInt8) :
    (byteLiterals p text).length = text.length := by
  induction text generalizing p with
  | nil => rfl
  | cons b text ih => rw [byteLiterals, List.length_cons, ih, List.length_cons]

theorem afterAll_append (p : Position) (text text' : List Char) :
    p.afterAll (text ++ text') = (p.afterAll text).afterAll text' :=
  List.foldl_append

namespace ParseState

variable {rest : List Char} {p : Position} {parts : Parts} {stack : List Frame}
  {names : List (String × Span)} {fuel : Nat}

theorem run_succ (s : ParseState) (ch : Char) (hverbose : s.verbose = false)
    (hhead : s.cursor.head? = some ch) :
    s.run (fuel + 1) = s.step ch >>= run fuel := by
  obtain ⟨cursor, verbose, parts, stack, names⟩ := s
  cases hverbose
  rw [run]
  simp only [Cursor.skipSpace_false, hhead]

theorem run_escapeByte (b : UInt8) :
    run (fuel + 1) ⟨⟨escapeByte b ++ rest, p⟩, false, parts, stack, names⟩ =
      run fuel ⟨⟨rest, p.afterAll (escapeByte b)⟩, false, parts.push (byteLiteral p b), stack,
        names⟩ := by
  have hstep : step ⟨⟨escapeByte b ++ rest, p⟩, false, parts, stack, names⟩ '\\' =
      .ok ⟨⟨rest, p.afterAll (escapeByte b)⟩, false, parts.push (byteLiteral p b), stack,
        names⟩ := by
    simp [step, readPlain, readEscape_escapeByte, ok_bind, Pure.pure, Except.pure]
  rw [run_succ _ '\\' rfl rfl, hstep, ok_bind]

/-- Reading goes over the escapes of bytes and has a literal more for each. -/
theorem run_escapes (text : List UInt8) :
    run (fuel + text.length) ⟨⟨text.flatMap escapeByte ++ rest, p⟩, false, parts, stack, names⟩ =
      run fuel ⟨⟨rest, p.afterAll (text.flatMap escapeByte)⟩, false,
        ⟨parts.first, (byteLiterals p text).reverse ++ parts.parts⟩, stack, names⟩ := by
  induction text generalizing p parts with
  | nil => rfl
  | cons b text ih =>
      rw [List.flatMap_cons, List.append_assoc, List.length_cons, ← Nat.add_assoc, run_escapeByte,
        ih, afterAll_append, byteLiterals, List.reverse_cons, List.append_assoc]
      rfl

def startMark (p : Position) : Ast := .assertion ⟨p, p.after '^'⟩ .startLine

theorem run_startMark :
    run (fuel + 1) ⟨⟨'^' :: rest, p⟩, false, parts, stack, names⟩ =
      run fuel ⟨⟨rest, p.after '^'⟩, false, parts.push (startMark p), stack, names⟩ := by
  rw [run_succ _ '^' rfl rfl]
  rfl

/-- The bytes behind those at the beginning, as many as needed. -/
def gap (p : Position) : Ast :=
  .repetition ⟨p, p.afterAll ['.', '*', '?']⟩ 0 none false (.dot ⟨p, p.after '.'⟩)

/-- The gap is one part more, though it takes two rounds to read. -/
theorem run_gap :
    run (fuel + 2) ⟨⟨'.' :: '*' :: '?' :: rest, p⟩, false, parts, stack, names⟩ =
      run fuel ⟨⟨rest, p.afterAll ['.', '*', '?']⟩, false, parts.push (gap p), stack, names⟩ := by
  have hdot : run (fuel + 2) ⟨⟨'.' :: '*' :: '?' :: rest, p⟩, false, parts, stack, names⟩ =
      run (fuel + 1) ⟨⟨'*' :: '?' :: rest, p.after '.'⟩, false,
        parts.push (.dot ⟨p, p.after '.'⟩), stack, names⟩ := by
    rw [run_succ _ '.' rfl rfl]
    rfl
  rw [hdot, run_succ _ '*' rfl rfl]
  rfl

theorem toExpr_startMark (p : Position) :
    (startMark p).toExpr (.start false) = .ok (.look .textStart, .start false) := rfl

theorem toExpr_gap (p : Position) :
    (gap p).toExpr (.start false) = .ok (.repeated 0 none false (.byte .full), .start false) := rfl

end ParseState

end FormatScan.Regex
