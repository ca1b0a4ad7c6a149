/-!
Decimal text of floating-point numbers: the fewest digits that read back as the same number.
-/

namespace FormatScan.Text

structure Decimal where
  digits : Nat
  exponent : Int
deriving DecidableEq

namespace Decimal

def ratio (n : Nat) (e : Int) : Nat × Nat :=
  if 0 ≤ e then (n <<< e.toNat, 1) else (n, 1 <<< (-e).toNat)

/-- The least `p` with `num / den < 10 ^ p`, searched for from `p` on. -/
def magnitudeFrom (num den : Nat) : Nat → Int → Int
  | 0, p => p
  | fuel + 1, p =>
    let below (p : Int) : Bool :=
      if 0 ≤ p then num < den * Nat.pow 10 p.toNat else num * Nat.pow 10 (-p).toNat < den
    if below p then p else magnitudeFrom num den fuel (p + 1)

/-- The point of the grid of `10 ^ k` that is nearest to a number, if the interval of the numbers
that round to it contains one. All numbers are given over `den`. -/
def gridPoint? (value low high den : Nat) (closed : Bool) (k : Int) : Option Nat :=
  let scale (n : Nat) : Nat := if 0 ≤ k then n else n * Nat.pow 10 (-k).toNat
  let den := if 0 ≤ k then den * Nat.pow 10 k.toNat else den
  let value := scale value
  let inside (n : Nat) : Bool :=
    if closed then scale low ≤ n * den && n * den ≤ scale high
    else scale low < n * den && n * den < scale high
  let down := value / den
  let up := down + 1
  let upIsNearer :=
    let fromDown := value - down * den
    let fromUp := up * den - value
    fromUp < fromDown || (fromUp == fromDown && down % 2 == 1)
  match inside down && 0 < down, inside up with
  | true, true => some (if upIsNearer then up else down)
  | true, false => some down
  | false, true => some up
  | false, false => none

/-- The shortest decimal that rounds to `m · 2 ^ e`, where `m` is the whole significand and
`narrow` says that the numbers below are half as far apart. -/
def shortest (m : Nat) (e : Int) (narrow : Bool) : Decimal :=
  let (value, den) := ratio (4 * m) (e - 2)
  let (high, _) := ratio (4 * m + 2) (e - 2)
  let (low, _) := ratio (4 * m - (if narrow then 1 else 2)) (e - 2)
  let magnitude := magnitudeFrom value den 800 (-330)
  let exponent (count : Nat) : Int := magnitude - (count : Int)
  let found := (List.range 17).findSome? fun i =>
    (gridPoint? value low high den (m % 2 == 0) (exponent (i + 1))).map fun n =>
      (⟨n, exponent (i + 1)⟩ : Decimal)
  found.getD ⟨m, 0⟩

def ofFloatBits (bits : Nat) : Decimal :=
  let significand := bits % (1 <<< 52)
  let biased : Nat := bits / (1 <<< 52) % (1 <<< 11)
  if biased = 0 then shortest significand (-1074) false
  else shortest (1 <<< 52 + significand) ((biased : Int) - 1075) (significand == 0 && biased != 1)

/-- Positional from one hundred-thousandth up to sixteen places before the point, and with an
exponent beyond; a point is there wherever no exponent is. -/
def render (d : Decimal) : String :=
  let digits := (Nat.toDigits 10 d.digits).reverse.dropWhile (· == '0') |>.reverse
  let dropped := (Nat.toDigits 10 d.digits).length - digits.length
  let exponent := d.exponent + (dropped : Int)
  let point := (digits.length : Int) + exponent
  if -5 ≤ point - 1 ∧ point - 1 < 16 then
    if 0 ≤ exponent then
      String.ofList (digits ++ List.replicate exponent.toNat '0') ++ ".0"
    else if 0 < point then
      String.ofList (digits.take point.toNat) ++ "." ++ String.ofList (digits.drop point.toNat)
    else "0." ++ String.ofList (List.replicate (-point).toNat '0' ++ digits)
  else
    let power := point - 1
    String.ofList (digits.take 1) ++
      (if digits.length = 1 then "" else "." ++ String.ofList (digits.drop 1)) ++
      (if power < 0 then "e-" else "e+") ++ toString power.natAbs

end Decimal

def renderFloat (x : Float) : String :=
  let bits := x.toBits.toNat
  let sign := if bits < 1 <<< 63 then "" else "-"
  let bits := bits % (1 <<< 63)
  if bits = 0 then sign ++ "0.0" else sign ++ (Decimal.ofFloatBits bits).render

end FormatScan.Text
