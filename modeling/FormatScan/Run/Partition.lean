/-!
Cutting a list of items into one contiguous part for each worker.
-/

namespace FormatScan

structure IndexRange where
  start : Nat
  stop : Nat
deriving DecidableEq

namespace IndexRange

def size (r : IndexRange) : Nat := r.stop - r.start

def slice {α : Type} (r : IndexRange) (items : List α) : List α :=
  (items.drop r.start).take r.size

def inRow (start : Nat) : List Nat → List IndexRange
  | [] => []
  | size :: sizes => ⟨start, start + size⟩ :: inRow (start + size) sizes

end IndexRange

/-- The sizes of `parts` parts of `count` items that differ by one at most, the larger first. -/
def balancedSizes (count parts : Nat) : List Nat :=
  (List.range parts).map fun i => count / parts + (if i < count % parts then 1 else 0)

/-- Cuts `count` items into parts of nearly the same size, none of them empty. -/
def partition (count parts : Nat) : List IndexRange :=
  if count = 0 then []
  else IndexRange.inRow 0 (balancedSizes count (max (min parts count) 1))

end FormatScan
