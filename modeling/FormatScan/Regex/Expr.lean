import FormatScan.Regex.ByteSet
import FormatScan.Unicode.Ranges
/-!
What a pattern asks of the bytes it is matched with.
-/

namespace FormatScan.Regex

/-- How the two sides of a place stand to words. -/
inductive WordEdge where
  | boundary
  | inside
  | start
  | stop
  | startHalf
  | stopHalf
deriving DecidableEq

/-- A condition on a place that takes up no bytes. -/
inductive Look where
  | textStart
  | textEnd
  | lineStart
  | lineEnd
  | crlfStart
  | crlfEnd
  | word (unicode : Bool) (edge : WordEdge)
deriving DecidableEq

inductive Expr where
  | empty
  /-- One byte of a set. -/
  | byte (set : ByteSet)
  /-- The UTF-8 form of one character of a set. -/
  | scalar (set : Unicode.Ranges)
  | look (condition : Look)
  | seq (first second : Expr)
  | alt (left right : Expr)
  /-- So many times over; without `max` there is no bound from above. A greedy repetition takes the
  longest way first. -/
  | repeated (min : Nat) (max : Option Nat) (greedy : Bool) (body : Expr)
  /-- A part in parentheses, and where in the pattern it begins if it captures. -/
  | group (capture : Option Nat) (body : Expr)
deriving DecidableEq

namespace Expr

def seqs : List Expr → Expr
  | [] => .empty
  | [e] => e
  | e :: rest => .seq e (seqs rest)

def alts : List Expr → Expr
  | [] => .byte .empty
  | [e] => e
  | e :: rest => .alt e (alts rest)

def bare : Expr → Expr
  | group _ body => body.bare
  | e => e

def bytes (bytes : List UInt8) : Expr :=
  seqs (bytes.map fun b => .byte (.single b.toNat))

end Expr

end FormatScan.Regex
