import FormatScan.Text.Blank
/-!
Reading the text of a pattern: places, spans, and a cursor that knows where it stands.
-/

namespace FormatScan.Regex

/-- A place in a pattern: the byte offset, and the line and column as a reader counts them. -/
structure Position where
  offset : Nat
  line : Nat
  column : Nat
deriving DecidableEq

def Position.start : Position := ⟨0, 1, 1⟩

def Position.after (p : Position) (c : Char) : Position :=
  if c = '\n' then ⟨p.offset + c.utf8Size, p.line + 1, 1⟩
  else ⟨p.offset + c.utf8Size, p.line, p.column + 1⟩

structure Span where
  first : Position
  last : Position
deriving DecidableEq

def Span.at (p : Position) : Span := ⟨p, p⟩

def Span.isOneLine (s : Span) : Bool := s.first.line == s.last.line

/-- What is left of a pattern, and the place where it begins. -/
structure Cursor where
  rest : List Char
  pos : Position
deriving DecidableEq

namespace Cursor

def ofString (pattern : String) : Cursor := ⟨pattern.toList, .start⟩

def isEnd (c : Cursor) : Bool := c.rest.isEmpty

def head? (c : Cursor) : Option Char := c.rest.head?

def bump (c : Cursor) : Cursor :=
  match c.rest with
  | [] => c
  | ch :: rest => ⟨rest, c.pos.after ch⟩

def charSpan (c : Cursor) : Span := ⟨c.pos, c.bump.pos⟩

def spanFrom (c : Cursor) (first : Position) : Span := ⟨first, c.pos⟩

def bumpIf? (c : Cursor) : List Char → Option Cursor
  | [] => some c
  | t :: ts => if c.head? = some t then c.bump.bumpIf? ts else none

/-- Passes over white space and comments; a comment runs from `#` to the end of its line. -/
def skipBlank (inComment : Bool) : List Char → Position → Cursor
  | [], p => ⟨[], p⟩
  | ch :: rest, p =>
    if inComment then skipBlank (ch != '\n') rest (p.after ch)
    else if Text.isBlank ch then skipBlank false rest (p.after ch)
    else if ch = '#' then skipBlank true rest (p.after ch)
    else ⟨ch :: rest, p⟩

def skipSpace (verbose : Bool) (c : Cursor) : Cursor :=
  if verbose then skipBlank false c.rest c.pos else c

def bumpSpace (verbose : Bool) (c : Cursor) : Cursor := c.bump.skipSpace verbose

def takeWhile (test : Char → Bool) : List Char → Position → List Char × Cursor
  | [], p => ([], ⟨[], p⟩)
  | ch :: rest, p =>
    if test ch then
      let (taken, c) := takeWhile test rest (p.after ch)
      (ch :: taken, c)
    else ([], ⟨ch :: rest, p⟩)

def peek? (c : Cursor) : Option Char := c.rest.tail.head?

/-- The first character behind the next one that a look past blanks stops at: the look goes over
white space and over one `#`. -/
def peekPastBlank? (chars : List Char) : Option Char :=
  match chars.dropWhile Text.isBlank with
  | '#' :: rest =>
    match rest.dropWhile Text.isBlank with
    | [] => chars.head?
    | ch :: _ => some ch
  | [] => chars.head?
  | ch :: _ => some ch

def peekSpace? (verbose : Bool) (c : Cursor) : Option Char :=
  if verbose then peekPastBlank? c.rest.tail else c.peek?

end Cursor

end FormatScan.Regex
