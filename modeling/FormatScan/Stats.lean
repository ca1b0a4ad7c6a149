import FormatScan.Counts
/-!
Statistics of detections, of a worker or of a whole run.

No update here looks at the width of the numbers. `fit?` does: what it refuses are the statistics
that a sum has made too great to be kept, at which arithmetic with checks stops the program and
arithmetic without them goes on with the rest of the division by the limit.
-/

namespace FormatScan

structure Stats where
  counts : Counts := ∅
  /-- Detections of what is part of other files. -/
  embedded : Counts := ∅
  /-- The names that have been counted for the file that is being scanned. -/
  detected : List String := []
  filesProcessed : Nat := 0
deriving DecidableEq

namespace Stats

def empty : Stats := {}

/-- Whether all numbers can be kept. -/
structure Fits (s : Stats) : Prop where
  counts : s.counts.Fits
  embedded : s.embedded.Fits
  filesProcessed : s.filesProcessed < Counts.limit

instance : DecidablePred Fits := fun s =>
  decidable_of_iff (s.counts.Fits ∧ s.embedded.Fits ∧ s.filesProcessed < Counts.limit)
    ⟨fun h => ⟨h.1, h.2.1, h.2.2⟩, fun h => ⟨h.counts, h.embedded, h.filesProcessed⟩⟩

/-- What an update has led to, unless it cannot be kept. -/
def fit? (s : Stats) : Option Stats := if s.Fits then some s else none

/-- Equality up to the names counted for the current file. -/
def same (a b : Stats) : Bool :=
  a.counts == b.counts && a.embedded == b.embedded && a.filesProcessed == b.filesProcessed

def beginFile (s : Stats) : Stats := { s with detected := [] }

/-- Forgets everything, what was counted included. -/
def resetAll (s : Stats) : Stats :=
  { s with counts := ∅, embedded := ∅, detected := [], filesProcessed := 0 }

/-- Counts a detection, unless the name has been counted for the current file, and answers whether
it has been counted now. -/
def record (s : Stats) (name : String) : Bool × Stats :=
  if s.detected.contains name then (false, s)
  else (true, { s with detected := s.detected ++ [name], counts := s.counts.add name 1 })

def recorded (s : Stats) (name : String) : Stats := (s.record name).2

def fileProcessed (s : Stats) : Stats := { s with filesProcessed := s.filesProcessed + 1 }

def count (s : Stats) (name : String) : Nat := s.counts.count name

def embeddedCount (s : Stats) (name : String) : Nat := s.embedded.count name

def isPresent (s : Stats) (name : String) : Bool := 0 < s.count name

/-- The sums of both; the names counted for the current file stay those of the first. -/
def merge (a b : Stats) : Stats :=
  { a with
    counts := a.counts.merge b.counts
    embedded := a.embedded.merge b.embedded
    filesProcessed := a.filesProcessed + b.filesProcessed }

def mergeAll (parts : List Stats) : Stats := parts.foldl merge empty

def relocate (s : Stats) (name : String) : Stats :=
  match s.counts.get? name with
  | some n => { s with counts := s.counts.erase name, embedded := s.embedded.add name n }
  | none => s

end Stats

end FormatScan
