import FormatScan.Regex.Layout
import FormatScan.Regex.NormalForm
import FormatScan.Regex.WordStates
/-!
The size of the automata of patterns. A pattern is matched without one, but a pattern whose automata
are too large is refused. There are two of them, one that reads forwards and one that reads
backwards.
-/

namespace FormatScan.Regex

structure Construction where
  backwards : Bool
  /-- Whether the places where groups begin and end are kept. -/
  captures : Bool

def NormalForm.literal? : NormalForm → Option (List Nat)
  | .literal bytes => some bytes
  | _ => none

namespace Layout

/-- What a state holds that leads two ways. -/
def fork : Layout := .state (2 * Footprint.branchSize)

/-- A class of bytes: a state with an edge for each range, and one behind it. -/
def bytes (ranges : List (Nat × Nat)) : Layout :=
  .state 0 ++ .state (Footprint.edgeSize * ranges.length)

/-- A repetition. Where the body takes up bytes in any case, going on from the end of the body and
passing it over are one. -/
def repeated (min : Nat) (max : Option Nat) (takesBytes : Bool) (body : Layout) : Layout :=
  match min, max with
  | 0, some 1 => fork ++ body ++ .state 0
  | 0, none => if takesBytes then fork ++ body else body ++ fork ++ fork ++ .state 0
  | min, none => body.copies min ++ fork
  | min, some max =>
    let needed := if min = 0 then .state 0 else body.copies min
    if min = max then needed else needed ++ .state 0 ++ (fork ++ body).copies (max - min)

def branches : List Layout → Layout
  | [] => .state 0
  | [a] => a
  | a :: b :: rest =>
    rest.foldl append
      (a ++ b ++ .state (Footprint.branchSize * (rest.length + 2)) ++ .state 0)

end Layout

namespace Construction

mutual

def layout (c : Construction) : NormalForm → Layout
  | .empty => .state 0
  | .literal bytes => (Layout.state 0).copies bytes.length
  | .byte ranges => .bytes ranges
  | .scalar ranges =>
    if NormalForm.isAscii ranges then .bytes ranges
    else if c.backwards then .backwards (Unicode.byteSequences ranges)
    else .forwards (Unicode.byteSequences ranges)
  | .look _ => .state 0
  | .repeated min max _ body =>
    .repeated min max (0 < body.minLength?.getD 0) (c.layout body)
  | .capture _ body =>
    if c.captures then .state 0 ++ c.layout body ++ .state 0 else c.layout body
  | .concat parts =>
    let parts := c.layouts parts
    (if c.backwards then parts.reverse else parts).foldl .append (.fixed .zero)
  | .choice branches =>
    match branches.mapM NormalForm.literal? with
    | some words => .fixed (Word.footprint (if c.backwards then words.map List.reverse else words))
    | none => .branches (c.layouts branches)

def layouts (c : Construction) : List NormalForm → List Layout
  | [] => []
  | part :: rest => c.layout part :: c.layouts rest

end

/-- What an automaton for several patterns is made of. A search for a place to begin at is part of
it unless all patterns have to begin where the text does. -/
def automaton (c : Construction) (patterns : List NormalForm) : Layout :=
  let isFixed := patterns.all fun p => if c.backwards then p.endsAtText else p.startsAtText
  let search := if isFixed then .state 0 else .fork ++ .bytes [(0, 255)]
  search ++ .branches (patterns.map fun p => c.layout (.capture 0 p) ++ .state 0)

end Construction

def sizeLimit : Nat := 64 * 1024 * 1024

/-- The least number of words that are looked for without an automaton. -/
def manyWords : Nat := 3000

def NormalForm.isManyWords : NormalForm → Bool
  | .choice branches => manyWords ≤ branches.length && branches.all fun b => b.literal?.isSome
  | _ => false

def Construction.fits (c : Construction) (patterns : List NormalForm) : Bool :=
  (c.automaton patterns).fits sizeLimit

/-- Whether the automata of a pattern fit. The one that reads forwards keeps the places of
groups. -/
def fitsAlone (e : Expr) : Bool :=
  let n := NormalForm.ofExpr e
  n.isManyWords || (Construction.fits ⟨false, true⟩ [n] && Construction.fits ⟨true, false⟩ [n])

def fitTogether (es : List Expr) : Bool :=
  let patterns := es.map NormalForm.ofExpr
  Construction.fits ⟨false, false⟩ patterns && Construction.fits ⟨true, false⟩ patterns

end FormatScan.Regex
