import FormatScan.Regex.Meaning
import FormatScan.Regex.NormalForm
/-!
Values that a directive asks of fields: numbers, truth values, and else patterns.
-/

namespace FormatScan.Log.FieldValue

/-- Digits with at most one point among them, and at least one digit. -/
def isDecimal (chars : List Char) : Bool :=
  let rest := chars.dropWhile Char.isDigit
  match rest with
  | [] => !chars.isEmpty
  | '.' :: fraction => fraction.all Char.isDigit && 1 < chars.length
  | _ => false

def isExponent (chars : List Char) : Bool :=
  match chars with
  | '+' :: digits => !digits.isEmpty && digits.all Char.isDigit
  | '-' :: digits => !digits.isEmpty && digits.all Char.isDigit
  | digits => !digits.isEmpty && digits.all Char.isDigit

def isMagnitude (chars : List Char) : Bool :=
  let lower := chars.map Char.toLower
  let mantissa := lower.takeWhile (· != 'e')
  ["inf", "infinity", "nan"].contains (String.ofList lower) ||
    match lower.dropWhile (· != 'e') with
    | [] => isDecimal mantissa
    | _ :: exponent => isDecimal mantissa && isExponent exponent

def isNumber (chars : List Char) : Bool :=
  match chars with
  | '+' :: rest => isMagnitude rest
  | '-' :: rest => isMagnitude rest
  | rest => isMagnitude rest

/-- Whether a text can be looked for in texts. The edges of words of Unicode are beyond the kind of
automaton that does it. -/
def isPattern (chars : List Char) : Bool :=
  match Regex.Expr.ofPattern .text (String.ofList chars) with
  | .ok e => !(Regex.NormalForm.ofExpr e).hasUnicodeEdge
  | .error _ => false

/-- Whether a value can be asked for. The words for truth values are patterns as well. -/
def isReadable (chars : List Char) : Bool := isNumber chars || isPattern chars

end FormatScan.Log.FieldValue
