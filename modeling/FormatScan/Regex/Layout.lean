import FormatScan.Regex.CharStates
/-!
What an automaton is made of, in the order in which it is made.
-/

namespace FormatScan.Regex

inductive Piece where
  /-- States that take up the same wherever they come. -/
  | fixed (f : Footprint)
  /-- States that read one character forwards. -/
  | forwards (states : List (List Edge))
  /-- States that read one character backwards. -/
  | backwards (sequences : List (List (Nat × Nat)))
  | both (first second : Piece)
  | copies (count : Nat) (body : Piece)

namespace Piece

def forwardSlots : Nat := 10000

def backwardSlots : Nat := 1000

def iterate (step : Footprint → Footprint) : Nat → Footprint → Footprint
  | 0, f => f
  | count + 1, f => iterate step count (step f)

def make : Piece → Footprint → Footprint
  | .fixed states, f => f.add states
  | .forwards states, f => f.pushForwards (.slots forwardSlots) states
  | .backwards sequences, f => f.pushBackwards (.slots backwardSlots) sequences
  | .both first second, f => second.make (first.make f)
  | .copies count body, f => iterate body.make count f

end Piece

/-- A piece with bounds of what it takes up. It takes up the least if all states that do the same
are shared, and the most if none are. -/
structure Layout where
  piece : Piece
  least : Footprint
  most : Footprint

namespace Layout

def fixed (f : Footprint) : Layout := ⟨.fixed f, f, f⟩

def state (held : Nat) : Layout := .fixed (Footprint.zero.push held)

def forwards (sequences : List (List (Nat × Nat))) : Layout :=
  let states := closedStates sequences
  ⟨.forwards states, Footprint.zero.pushForwards .always states,
    Footprint.zero.pushForwards .never states⟩

def backwards (sequences : List (List (Nat × Nat))) : Layout :=
  ⟨.backwards sequences, Footprint.zero.pushBackwards .always sequences,
    Footprint.zero.pushBackwards .never sequences⟩

def append (a b : Layout) : Layout :=
  match a.piece, b.piece with
  | .fixed f, .fixed g => .fixed (f.add g)
  | first, second => ⟨.both first second, a.least.add b.least, a.most.add b.most⟩

instance : Append Layout := ⟨append⟩

def copies (count : Nat) (a : Layout) : Layout :=
  match a.piece with
  | .fixed f => .fixed (f.times count)
  | body => ⟨.copies count body, a.least.times count, a.most.times count⟩

/-- Whether no more than `limit` bytes are taken up. Only between the bounds the states have to be
made one by one. -/
def fits (limit : Nat) (a : Layout) : Bool :=
  a.most.size ≤ limit || (a.least.size ≤ limit && (a.piece.make .zero).size ≤ limit)

end Layout

end FormatScan.Regex
