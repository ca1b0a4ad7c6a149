/-!
Sets of bytes, one bit a byte.
-/

namespace FormatScan.Regex

structure ByteSet where
  bits : Nat
deriving DecidableEq

namespace ByteSet

def empty : ByteSet := ⟨0⟩

def full : ByteSet := ⟨1 <<< 256 - 1⟩

def contains (s : ByteSet) (b : UInt8) : Bool := s.bits.testBit b.toNat

def single (n : Nat) : ByteSet := ⟨1 <<< n⟩

def range (low high : Nat) : ByteSet := ⟨(1 <<< (high + 1) - 1) ^^^ (1 <<< low - 1)⟩

def union (a b : ByteSet) : ByteSet := ⟨a.bits ||| b.bits⟩

def intersection (a b : ByteSet) : ByteSet := ⟨a.bits &&& b.bits⟩

def symmetricDifference (a b : ByteSet) : ByteSet := ⟨a.bits ^^^ b.bits⟩

def difference (a b : ByteSet) : ByteSet := a.symmetricDifference (a.intersection b)

def complement (a : ByteSet) : ByteSet := full.symmetricDifference a

def ofRanges (ranges : List (Nat × Nat)) : ByteSet :=
  ranges.foldl (fun s r => s.union (range r.1 r.2)) empty

def upperCase : ByteSet := range 65 90

def lowerCase : ByteSet := range 97 122

def foldCase (s : ByteSet) : ByteSet :=
  ⟨s.bits ||| ((s.intersection upperCase).bits <<< 32) |||
    ((s.intersection lowerCase).bits >>> 32)⟩

def isAscii (s : ByteSet) : Bool := s.bits < 1 <<< 128

def toRanges (s : ByteSet) : List (Nat × Nat) :=
  go [] s.bits 256
where
  /-- Takes ranges from the upper end, and at most `fuel` of them. -/
  go (ranges : List (Nat × Nat)) (bits : Nat) : (fuel : Nat) → List (Nat × Nat)
    | 0 => ranges
    | fuel + 1 =>
      if bits = 0 then ranges
      else
        let high := bits.log2
        let gaps := (1 <<< (high + 1) - 1) ^^^ bits
        let low := if gaps = 0 then 0 else gaps.log2 + 1
        go ((low, high) :: ranges) (bits % (1 <<< low)) fuel

end ByteSet

end FormatScan.Regex
