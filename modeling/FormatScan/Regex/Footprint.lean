/-!
What an automaton takes up in memory.
-/

namespace FormatScan.Regex

/-- The number of states, and the bytes that the states hold beyond their own size. -/
structure Footprint where
  states : Nat
  held : Nat
deriving DecidableEq

namespace Footprint

def zero : Footprint := ⟨0, 0⟩

def add (a b : Footprint) : Footprint := ⟨a.states + b.states, a.held + b.held⟩

def push (f : Footprint) (held : Nat) : Footprint := ⟨f.states + 1, f.held + held⟩

def times (count : Nat) (f : Footprint) : Footprint := ⟨count * f.states, count * f.held⟩

def stateSize : Nat := 32

def branchSize : Nat := 4

def edgeSize : Nat := 8

def size (f : Footprint) : Nat := stateSize * f.states + f.held

end Footprint

end FormatScan.Regex
