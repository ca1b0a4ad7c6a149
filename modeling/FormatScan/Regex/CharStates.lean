import FormatScan.Regex.Footprint
import FormatScan.Unicode.Utf8
import Std.Data.HashMap
/-!
The states of an automaton that reads the UTF-8 form of one character of a class. States that do
the same are shared as far as a bounded store of earlier states remembers them, so that how many
there are hangs on the numbers that they have.
-/

namespace FormatScan.Regex

inductive Sharing where
  | always
  | never
  /-- Earlier states are looked up in a store with so many slots, each of which holds its latest
  state. -/
  | slots (count : Nat)
deriving DecidableEq

def slotOf (count : Nat) (key : List Nat) : Nat :=
  let mixed := key.foldl (fun h n => (h ^^^ n.toUInt64) * (1099511628211 : UInt64))
    (14695981039346656037 : UInt64)
  (mixed % count.toUInt64).toNat

/-- States that have been made, and what is remembered of them: for each row of numbers the state
that does what the row says, or for each slot the latest state with its row. -/
structure StatePool where
  footprint : Footprint
  known : Std.HashMap (List Nat) Nat := {}
  latest : Array (List Nat × Nat) := #[]

namespace StatePool

def ofFootprint (sharing : Sharing) (f : Footprint) : StatePool :=
  match sharing with
  | .slots count => { footprint := f, latest := Array.replicate count ([], 0) }
  | _ => { footprint := f }

/-- The number of a state that does what `key` says: an earlier one, or a new one. -/
def intern (sharing : Sharing) (held : Nat) (key : List Nat) : StatePool → Nat × StatePool
  | ⟨footprint, known, latest⟩ =>
    let number := footprint.states
    match sharing with
    | .never => (number, ⟨footprint.push held, known, latest⟩)
    | .always =>
      match known[key]? with
      | some earlier => (earlier, ⟨footprint, known, latest⟩)
      | none => (number, ⟨footprint.push held, known.insert key number, latest⟩)
    | .slots count =>
      let slot := slotOf count key
      match latest[slot]? with
      | some (other, earlier) =>
        if other == key then (earlier, ⟨footprint, known, latest⟩)
        else (number, ⟨footprint.push held, known, latest.setIfInBounds slot (key, number)⟩)
      | none => (number, ⟨footprint.push held, known, latest⟩)

end StatePool

/-- An edge over a range of bytes. The state that it leads to is one of a list, counted from one;
zero is the state behind all of them. -/
structure Edge where
  low : Nat
  high : Nat
  next : Nat

/-- A state whose last edge does not lead anywhere yet. The latest edge stands first. -/
structure OpenState where
  edges : List Edge := []
  last : Option (Nat × Nat) := none

def OpenState.close (s : OpenState) (next : Nat) : OpenState :=
  match s.last with
  | none => s
  | some (low, high) => ⟨⟨low, high, next⟩ :: s.edges, none⟩

/-- States on the way to be closed: the open ones, the deepest first, and the closed ones, the
latest first. -/
structure Draft where
  opened : List OpenState
  closed : List (List Edge)
  count : Nat

namespace Draft

def start : Draft := ⟨[{}], [], 0⟩

/-- Closes the open states, the deepest one first, down to the first `kept` and one more, whose last
edge then leads on. -/
def closeFrom (kept : Nat) (closed : List (List Edge)) (count next : Nat) : List OpenState → Draft
  | [] => ⟨[], closed, count⟩
  | s :: rest =>
    if kept < rest.length then
      closeFrom kept ((s.close next).edges.reverse :: closed) (count + 1) (count + 1) rest
    else ⟨s.close next :: rest, closed, count⟩

/-- The number of ranges that a sequence and the open states, the root first, have in common. -/
def commonLength : List (Nat × Nat) → List OpenState → Nat
  | range :: ranges, s :: rest => if s.last = some range then commonLength ranges rest + 1 else 0
  | _, _ => 0

def add (d : Draft) (seq : List (Nat × Nat)) : Draft :=
  let kept := commonLength seq d.opened.reverse
  let d := closeFrom kept d.closed d.count 0 d.opened
  match d.opened, seq.drop kept with
  | top :: rest, range :: ranges =>
    { d with opened :=
        (ranges.map fun range => ({ last := some range } : OpenState)).reverse ++
          { top with last := some range } :: rest }
  | _, _ => d

def finish (d : Draft) : List (List Edge) :=
  let d := closeFrom 0 d.closed d.count 0 d.opened
  ((d.opened.map fun root => root.edges.reverse) ++ d.closed).reverse

end Draft

/-- The states that read sequences of bytes from the first byte on. Each leads to earlier ones. -/
def closedStates (sequences : List (List (Nat × Nat))) : List (List Edge) :=
  (sequences.foldl Draft.add .start).finish

def Footprint.pushForwards (sharing : Sharing) (f : Footprint) (states : List (List Edge)) :
    Footprint :=
  let step : Array Nat × StatePool → List Edge → Array Nat × StatePool
    | (numbers, pool), edges =>
      let key := edges.flatMap fun e => [e.low, e.high, numbers.getD e.next 0]
      let (number, pool) := pool.intern sharing (edgeSize * edges.length) key
      (numbers.push number, pool)
  (states.foldl step (#[f.states], .ofFootprint sharing (f.push 0))).2.footprint

/-- Adds the states that read one character backwards: a branch for each sequence, which is read
from its last byte on. Sequences share the steps that they end with. -/
def Footprint.pushBackwards (sharing : Sharing) (f : Footprint)
    (sequences : List (List (Nat × Nat))) : Footprint :=
  let step : Nat × StatePool → Nat × Nat → Nat × StatePool
    | (next, pool), (low, high) => pool.intern sharing 0 [next, low, high]
  let pool := StatePool.ofFootprint sharing ((f.push (branchSize * sequences.length)).push 0)
  (sequences.foldl (fun pool seq => (seq.foldl step (f.states + 1, pool)).2) pool).footprint

end FormatScan.Regex
