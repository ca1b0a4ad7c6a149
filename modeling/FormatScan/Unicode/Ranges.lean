/-!
Sets of characters as lists of ranges in ascending order.
-/

namespace FormatScan.Unicode

/-- Ranges of code points, both ends included. The ends are characters, which surrogates are
not. -/
abbrev Ranges := List (Nat × Nat)

namespace Ranges

def maxCodePoint : Nat := 0x10FFFF

def contains (ranges : Ranges) (n : Nat) : Bool :=
  ranges.any fun r => r.1 ≤ n && n ≤ r.2

def charBefore (n : Nat) : Nat := if n = 0xE000 then 0xD7FF else n - 1

def charAfter (n : Nat) : Nat := if n = 0xD7FF then 0xE000 else n + 1

/-- Joins neighbours in a sorted list of ranges. Ranges with the surrogates between them stay
apart. -/
def join : Ranges → Ranges
  | [] => []
  | range :: rest => go range rest
where
  go (range : Nat × Nat) : Ranges → Ranges
    | [] => [range]
    | next :: rest =>
      if next.1 ≤ range.2 + 1 then go (range.1, max range.2 next.2) rest
      else range :: go next rest

def normalize (ranges : Ranges) : Ranges :=
  join (ranges.mergeSort fun a b => a.1 ≤ b.1)

def insert (ranges : Ranges) (range : Nat × Nat) : Ranges := normalize (ranges ++ [range])

def union (a b : Ranges) : Ranges :=
  if b.isEmpty || a == b then a else normalize (a ++ b)

/-- The range between two neighbours. If only surrogates lie between them there is no character to
name, and the two characters beside the surrogates are taken for the ends. -/
def between (a b : Nat × Nat) : Nat × Nat :=
  let low := charAfter a.2
  let high := charBefore b.1
  (min low high, max low high)

def complement : Ranges → Ranges
  | [] => [(0, maxCodePoint)]
  | first :: rest =>
    (if first.1 = 0 then [] else [(0, charBefore first.1)]) ++ go first rest
where
  go (last : Nat × Nat) : Ranges → Ranges
    | [] => if last.2 < maxCodePoint then [(charAfter last.2, maxCodePoint)] else []
    | next :: rest => between last next :: go next rest

def intersection (a b : Ranges) : Ranges :=
  a.flatMap fun r => b.filterMap fun s =>
    let low := max r.1 s.1
    let high := min r.2 s.2
    if low ≤ high then some (low, high) else none

/-- What is left of a range without another one. -/
def cut (range other : Nat × Nat) : Ranges :=
  if range.2 < other.1 || other.2 < range.1 then [range]
  else
    (if range.1 < other.1 then [(range.1, charBefore other.1)] else []) ++
      (if other.2 < range.2 then [(charAfter other.2, range.2)] else [])

def difference (a b : Ranges) : Ranges :=
  a.flatMap fun range => b.foldl (fun pieces other => pieces.flatMap (cut · other)) [range]

def symmetricDifference (a b : Ranges) : Ranges :=
  (a.union b).difference (a.intersection b)

end Ranges

end FormatScan.Unicode
