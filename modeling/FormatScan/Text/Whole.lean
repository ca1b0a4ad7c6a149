/-!
Whole numbers in decimal digits, possibly behind a plus sign.
-/

namespace FormatScan.Text

inductive WholeFault where
  | empty
  | invalidDigit
  | tooLarge
deriving DecidableEq

def WholeFault.message : WholeFault → String
  | empty => "cannot parse integer from empty string"
  | invalidDigit => "invalid digit found in string"
  | tooLarge => "number too large to fit in target type"

/-- Reads digits behind a number up to `limit`; of two faults the first one counts. -/
def wholeFrom (limit value : Nat) : List Char → Except WholeFault Nat
  | [] => .ok value
  | c :: rest =>
    if !c.isDigit then .error .invalidDigit
    else
      let next := value * 10 + (c.toNat - 48)
      if limit < next then .error .tooLarge else wholeFrom limit next rest

def whole (limit : Nat) (text : String) : Except WholeFault Nat :=
  match text.toList with
  | [] => .error .empty
  | ['+'] => .error .invalidDigit
  | '+' :: digits => wholeFrom limit 0 digits
  | digits => wholeFrom limit 0 digits

def whole64 (text : String) : Except WholeFault Nat := whole (UInt64.size - 1) text

end FormatScan.Text
