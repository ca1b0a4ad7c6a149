import FormatScan.Unicode.Ranges
/-!
UTF-8: the bytes that a character is written with, and the sequences of bytes that sets of
characters are written with.
-/

namespace FormatScan.Unicode

def utf8Bytes (n : Nat) : List Nat :=
  if n < 0x80 then [n]
  else if n < 0x800 then [0xC0 + n / 64, 0x80 + n % 64]
  else if n < 0x10000 then [0xE0 + n / 4096, 0x80 + n / 64 % 64, 0x80 + n % 64]
  else [0xF0 + n / 262144, 0x80 + n / 4096 % 64, 0x80 + n / 64 % 64, 0x80 + n % 64]

/-- Cuts a range where the length of the UTF-8 form changes, and at the surrogates. -/
def splitByLength (low high : Nat) : List (Nat × Nat) :=
  [(0, 0x7F), (0x80, 0x7FF), (0x800, 0xD7FF), (0xE000, 0xFFFF), (0x10000, 0x10FFFF)].filterMap
    fun piece =>
      let low := max low piece.1
      let high := min high piece.2
      if low ≤ high then some (low, high) else none

/-- Cuts a range into pieces whose UTF-8 forms are one range of bytes at each place. -/
def splitByBytes : (fuel low high : Nat) → List (Nat × Nat)
  | 0, low, high => [(low, high)]
  | fuel + 1, low, high =>
    let cut := [1, 2, 3].findSome? fun i =>
      let block := 1 <<< (6 * i)
      if low / block = high / block then none
      else if low % block ≠ 0 then
        let last := low / block * block + block - 1
        some ((low, last), (last + 1, high))
      else if high % block ≠ block - 1 then
        let first := high / block * block
        some ((low, first - 1), (first, high))
      else none
    match if low < 0x80 then none else cut with
    | none => [(low, high)]
    | some (left, right) => splitByBytes fuel left.1 left.2 ++ splitByBytes fuel right.1 right.2

/-- The sequences of ranges of bytes that the characters of a class are written with. -/
def byteSequences (set : Ranges) : List (List (Nat × Nat)) :=
  (set.flatMap fun r => splitByLength r.1 r.2).flatMap fun r =>
    (splitByBytes 12 r.1 r.2).map fun piece => (utf8Bytes piece.1).zip (utf8Bytes piece.2)

end FormatScan.Unicode
