import FormatScan.Regex.Expr
import FormatScan.Unicode.Lookup
/-!
The bytes that patterns are matched with. Sets of places in them are kept as bits of a number, and
the bytes also as eight such sets, one for each bit of a byte, so that a step over all places is a
few operations on numbers.
-/

namespace FormatScan.Regex

/-- The places from `start` on, up to `2 ^ depth` of them, that lie below `stop` and satisfy
`test`. -/
def placesWhere (stop : Nat) (test : Nat → Bool) : (depth start : Nat) → Nat
  | 0, start => if start < stop && test start then 1 else 0
  | depth + 1, start =>
    if stop ≤ start then 0
    else
      placesWhere stop test depth start |||
        (placesWhere stop test depth (start + 1 <<< depth) <<< (1 <<< depth))

/-- The members of a set of up to `2 ^ depth` places that satisfy `test`. -/
def filterPlaces (test : Nat → Bool) : (depth start : Nat) → Nat → Nat
  | 0, start, s => if test start then s else 0
  | depth + 1, start, s =>
    if s = 0 then 0
    else
      filterPlaces test depth start (s % (1 <<< (1 <<< depth))) |||
        (filterPlaces test depth (start + 1 <<< depth) (s >>> (1 <<< depth)) <<< (1 <<< depth))

def depthOf (n : Nat) : Nat := n.log2 + 1

def byteAt (bytes : ByteArray) (i : Nat) : Nat :=
  if h : i < bytes.size then bytes[i].toNat else 0

def planeOf (bytes : ByteArray) (bit : Nat) : Nat :=
  placesWhere bytes.size (fun i => (byteAt bytes i).testBit bit) (depthOf bytes.size) 0

structure Haystack where
  bytes : ByteArray
  /-- The places of bytes that have a bit, for each bit from the highest to the lowest. -/
  planes : List Nat
  planes_eq : planes = [7, 6, 5, 4, 3, 2, 1, 0].map (planeOf bytes)

namespace Haystack

def ofBytes (bytes : ByteArray) : Haystack := ⟨bytes, _, rfl⟩

def size (h : Haystack) : Nat := h.bytes.size

def places (h : Haystack) : Nat := 1 <<< (h.size + 1) - 1

def inner (h : Haystack) : Nat := 1 <<< h.size - 1

/-- Sorts places out by the bits of their bytes, one plane after the other. -/
def selectBy : List Nat → Nat → Nat → Nat
  | [], set, s => if set = 0 then 0 else s
  | plane :: planes, set, s =>
    if s = 0 then 0
    else
      let half := 1 <<< planes.length
      let off := set % (1 <<< half)
      let on := set >>> half
      if off = on then selectBy planes off s
      else
        let marked := s &&& plane
        selectBy planes off (s ^^^ marked) ||| selectBy planes on marked

def select (h : Haystack) (set : ByteSet) (s : Nat) : Nat :=
  selectBy h.planes set.bits (s &&& h.inner)

def filter (h : Haystack) (test : Nat → Bool) (s : Nat) : Nat :=
  filterPlaces test (depthOf (h.size + 1)) 0 s

/-- The character whose UTF-8 form begins at `i` and ends before `stop`, and the length of it. -/
def decodeAt? (h : Haystack) (stop i : Nat) : Option (Nat × Nat) :=
  let at' (k : Nat) : Nat := if i + k < stop then byteAt h.bytes (i + k) else 0
  let tail (k : Nat) : Bool := 0x80 ≤ at' k && at' k < 0xC0
  let bits (k : Nat) : Nat := at' k - 0x80
  let first := at' 0
  if stop ≤ i then none
  else if first < 0x80 then some (first, 1)
  else if first < 0xC2 then none
  else if first < 0xE0 then
    if tail 1 then some ((first - 0xC0) * 64 + bits 1, 2) else none
  else if first < 0xF0 then
    let value := ((first - 0xE0) * 64 + bits 1) * 64 + bits 2
    if tail 1 && tail 2 && 0x800 ≤ value && !(0xD800 ≤ value && value ≤ 0xDFFF) then
      some (value, 3)
    else none
  else if first < 0xF5 then
    let value := (((first - 0xF0) * 64 + bits 1) * 64 + bits 2) * 64 + bits 3
    if tail 1 && tail 2 && tail 3 && 0x10000 ≤ value && value ≤ 0x10FFFF then some (value, 4)
    else none
  else none

/-- The character in front of the place `i`: it is looked for from the nearest byte, at most four
bytes back, that does not continue a character. -/
def decodeBefore? (h : Haystack) (i : Nat) : Option (Nat × Nat) :=
  h.decodeAt? i (back 3 (i - 1))
where
  back : Nat → Nat → Nat
    | 0, p => p
    | n + 1, p =>
      let b := byteAt h.bytes p
      if 0x80 ≤ b && b < 0xC0 && 0 < p then back n (p - 1) else p

def isWordByte (n : Nat) : Bool :=
  (48 ≤ n && n ≤ 57) || (65 ≤ n && n ≤ 90) || n == 95 || (97 ≤ n && n ≤ 122)

/-- What stands on one side of a place: nothing, a sign of a word, another sign, or bytes that are
no character. -/
inductive Neighbour where
  | none
  | word
  | other
  | broken
deriving DecidableEq

def Neighbour.ofChar? : Option (Nat × Nat) → Neighbour
  | some (n, _) => if Unicode.wordRanges.contains n then word else other
  | .none => broken

def before (h : Haystack) (unicode : Bool) (i : Nat) : Neighbour :=
  if i = 0 then .none
  else if unicode then .ofChar? (h.decodeBefore? i)
  else if isWordByte (byteAt h.bytes (i - 1)) then .word else .other

def after (h : Haystack) (unicode : Bool) (i : Nat) : Neighbour :=
  if h.size ≤ i then .none
  else if unicode then .ofChar? (h.decodeAt? h.size i)
  else if isWordByte (byteAt h.bytes i) then .word else .other

/-- Whether a place has the words on its sides that an edge asks for. Where bytes are no
character, an edge that asks for the absence of a word on such a side does not hold. -/
def hasEdge (before after : Neighbour) : WordEdge → Bool
  | .boundary => (before == .word) != (after == .word)
  | .inside =>
    before != .broken && after != .broken && (before == .word) == (after == .word)
  | .start => before != .word && after == .word
  | .stop => before == .word && after != .word
  | .startHalf => before != .broken && before != .word
  | .stopHalf => after != .broken && after != .word

def holds (h : Haystack) (i : Nat) : Look → Bool
  | .textStart => i == 0
  | .textEnd => i == h.size
  | .lineStart => i == 0 || byteAt h.bytes (i - 1) == 10
  | .lineEnd => i == h.size || byteAt h.bytes i == 10
  | .crlfStart =>
    i == 0 || byteAt h.bytes (i - 1) == 10 ||
      (byteAt h.bytes (i - 1) == 13 && (h.size ≤ i || byteAt h.bytes i != 10))
  | .crlfEnd =>
    i == h.size || byteAt h.bytes i == 13 ||
      (byteAt h.bytes i == 10 && (i == 0 || byteAt h.bytes (i - 1) != 13))
  | .word unicode edge => hasEdge (h.before unicode i) (h.after unicode i) edge

/-- The places of `s` where a condition holds. The two ends of the text need no search. -/
def lookAt (h : Haystack) (condition : Look) (s : Nat) : Nat :=
  match condition with
  | .textStart => s &&& 1
  | .textEnd => s &&& (1 <<< h.size)
  | condition => h.filter (fun i => h.holds i condition) s

end Haystack

end FormatScan.Regex
