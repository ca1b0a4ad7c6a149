import FormatScan.Unicode.Ranges
/-!
The text form in which tables of code points are kept: numbers in base 32, and ranges as gaps and
lengths.
-/

namespace FormatScan.Unicode

/-- The value of a sign: signs from `0` to `v` end a number, the others say that it goes on. -/
def signValue (c : Char) : Nat × Bool :=
  let n := c.toNat
  if 48 ≤ n && n ≤ 57 then (n - 48, true)
  else if 97 ≤ n && n ≤ 118 then (n - 87, true)
  else if 65 ≤ n && n ≤ 90 then (n - 65, false)
  else
    (match c with
      | '!' => 26
      | '#' => 27
      | '$' => 28
      | '%' => 29
      | '&' => 30
      | _ => 31, false)

def readNumbers (code : String) : List Nat :=
  go 0 code.toList
where
  go (value : Nat) : List Char → List Nat
    | [] => []
    | c :: rest =>
      let (digit, isLast) := signValue c
      if isLast then (value * 32 + digit) :: go 0 rest else go (value * 32 + digit) rest

/-- Reads ranges that are written as the gap before each and the length of it less one. -/
def Ranges.ofCode (code : String) : Ranges :=
  go 0 (readNumbers code)
where
  go (start : Nat) : List Nat → Ranges
    | gap :: length :: rest =>
      (start + gap, start + gap + length) :: go (start + gap + length + 1) rest
    | _ => []

end FormatScan.Unicode
