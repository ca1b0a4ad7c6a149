import FormatScan.Config.Policy
import FormatScan.Signature.Basic
import FormatScan.Stats
/-!
Correction of counts that are too high: files of derived formats count as files of the container
format as well, containers hold files of other formats, and formats that exclude each other may
both match. Four passes, one after the other.
-/

namespace FormatScan.Stats

/-- The names of a parent and a child, where a signature declares that its files count as files of
another format. -/
def deductions (signatures : List Signature) : List (String × String) :=
  signatures.filterMap fun s =>
    match s.deductFrom with
    | some parent => if parent = s.name then none else some (parent, s.name)
    | none => none

/-- Takes the count of each child, as it was at first, from the count of its parent. -/
def deduct (signatures : List Signature) (s : Stats) : Stats :=
  { s with
    counts := (deductions signatures).foldl
      (fun counts d => counts.subtract d.1 (s.count d.2)) s.counts }

def derivedCount (policy : ContainerPolicy) (s : Stats) : Nat :=
  policy.derived.foldr (fun name n => s.count name + n) 0

def deductDerived (policy : ContainerPolicy) (s : Stats) : Stats :=
  { s with counts := s.counts.subtract policy.container (derivedCount policy s) }

/-- Moves the counts of formats that are often embedded, if there is a file of a derived
format. -/
def relocateEmbedded (policy : ContainerPolicy) (s : Stats) : Stats :=
  if policy.derived.any s.isPresent then
    let s := policy.embedded.foldl relocate s
    policy.thresholded.foldl
      (fun s name => if policy.imageThreshold < s.count name then s.relocate name else s) s
  else s

def deductDerived? (policy : ContainerPolicy) (s : Stats) : Option Stats :=
  if derivedCount policy s < Counts.limit then some (deductDerived policy s) else none

/-- The pass that moves counts, with sums that have to be kept. -/
def relocateEmbedded? (policy : ContainerPolicy) (s : Stats) : Option Stats :=
  if policy.derived.any s.isPresent then do
    let s ← policy.embedded.foldlM (fun s name => (s.relocate name).fit?) s
    policy.thresholded.foldlM
      (fun s name =>
        (if policy.imageThreshold < s.count name then s.relocate name else s).fit?) s
  else some s

def pairLe (a b : String × String) : Bool :=
  a.1 < b.1 || (a.1 == b.1 && a.2 ≤ b.2)

/-- The pairs of names that exclude each other, each once and the lesser name first, in
order. -/
def exclusivePairs (signatures : List Signature) : List (String × String) :=
  let pairs := signatures.flatMap fun s =>
    (s.exclusiveWith.filter (· ≠ s.name)).map fun other =>
      if s.name < other then (s.name, other) else (other, s.name)
  (pairs.mergeSort pairLe).eraseDups

/-- The priority of a name; of several signatures with the name the last counts. -/
def priority? (signatures : List Signature) (name : String) : Option Int32 :=
  (signatures.reverse.find? (·.name = name)).map (·.priority)

/-- The member of a pair that goes if both are there: the one of lesser priority, and the second
one if both have the same. -/
def loser? (signatures : List Signature) (pair : String × String) : Option String := do
  let first ← priority? signatures pair.1
  let second ← priority? signatures pair.2
  return if first < second then pair.1 else pair.2

def excludeOne (signatures : List Signature) (s : Stats) (pair : String × String) : Stats :=
  if s.isPresent pair.1 && s.isPresent pair.2 then
    match loser? signatures pair with
    | some name => { s with counts := s.counts.erase name }
    | none => s
  else s

def excludePairs (signatures : List Signature) (s : Stats) : Stats :=
  (exclusivePairs signatures).foldl (excludeOne signatures) s

def correct (signatures : List Signature) (policy : ContainerPolicy) (s : Stats) : Stats :=
  excludePairs signatures (relocateEmbedded policy (deductDerived policy (deduct signatures s)))

/-- All passes in their order, with sums that have to be kept. The first and the last one form
none. -/
def correct? (signatures : List Signature) (policy : ContainerPolicy) (s : Stats) :
    Option Stats := do
  let s ← deductDerived? policy (deduct signatures s)
  return excludePairs signatures (← relocateEmbedded? policy s)

end FormatScan.Stats
