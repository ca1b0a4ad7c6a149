import FormatScan.Regex.Escape
/-!
Character classes in brackets.
-/

namespace FormatScan.Regex

/-- Items that stand side by side in a class, the last one first. -/
structure ClassItems where
  span : Span
  items : List ClassSet

namespace ClassItems

def empty (p : Position) : ClassItems := ⟨.at p, []⟩

def push (u : ClassItems) (item : ClassSet) : ClassItems :=
  let first := if u.items.isEmpty then item.span.first else u.span.first
  ⟨⟨first, item.span.last⟩, item :: u.items⟩

def toSet (u : ClassItems) : ClassSet :=
  match u.items with
  | [] => .empty u.span
  | [item] => item
  | items => .union u.span items.reverse

end ClassItems

/-- What a class is in the middle of: an open bracket with the items before it, or an operator
with its left side. -/
inductive ClassFrame where
  | opened (outer : ClassItems) (span : Span) (negated : Bool)
  | op (kind : SetOp) (left : ClassSet)

def applyOp (right : ClassSet) : List ClassFrame → ClassSet × List ClassFrame
  | .op kind left :: rest => (.op ⟨left.span.first, right.span.last⟩ kind left right, rest)
  | stack => (right, stack)

def unclosedClass (p : Position) (stack : List ClassFrame) : PatternError :=
  match stack.findSome? fun
    | .opened _ span _ => some span
    | .op .. => none
  with
  | some span => ⟨.classUnclosed, span⟩
  | none => ⟨.classUnclosed, .at p⟩

def readDashes (verbose : Bool) (start : Position) (u : ClassItems) :
    Nat → Cursor → Parsed (ClassItems × Cursor)
  | 0, c => .ok (u, c)
  | fuel + 1, c =>
    if c.head? = some '-' then
      let next := c.bumpSpace verbose
      if next.isEnd then fail .classUnclosed (.at start)
      else readDashes verbose start (u.push (.literal ⟨c.charSpan, '-', false⟩)) fuel next
    else .ok (u, c)

/-- Reads an opening bracket and the signs that are plain only there: dashes, and a closing
bracket that comes first. -/
def openBracket (verbose : Bool) (c : Cursor) : Parsed ((Span × Bool × ClassItems) × Cursor) := do
  let start := c.pos
  let c := c.bumpSpace verbose
  if c.isEnd then fail .classUnclosed (c.spanFrom start)
  let negated := c.head? == some '^'
  let c := if negated then c.bumpSpace verbose else c
  if c.isEnd then fail .classUnclosed (c.spanFrom start)
  let (u, c) ← readDashes verbose start (.empty c.pos) (c.rest.length + 1) c
  if u.items.isEmpty && c.head? == some ']' then
    let next := c.bumpSpace verbose
    if next.isEnd then fail .classUnclosed (next.spanFrom start)
    return ((next.spanFrom start, negated, u.push (.literal ⟨c.charSpan, ']', false⟩)), next)
  return ((c.spanFrom start, negated, u), c)

def readAsciiClass? (c : Cursor) : Option (ClassSet × Cursor) := do
  let start := c.pos
  let c ← c.bumpIf? ['[', ':']
  let negated := c.head? == some '^'
  let c := if negated then c.bump else c
  let (name, c) := Cursor.takeWhile (· != ':') c.rest c.pos
  let c ← c.bumpIf? [':', ']']
  let kind ← AsciiKind.ofName? (String.ofList name)
  return (.ascii (c.spanFrom start) negated kind, c)

def readClassAtom (verbose : Bool) (c : Cursor) : Parsed (Ast × Cursor) :=
  match c.head? with
  | none => fail .classUnclosed (.at c.pos)
  | some ch =>
    if ch = '\\' then readEscape verbose c else .ok (.literal ⟨c.charSpan, ch, false⟩, c.bump)

def ClassSet.ofAst : Ast → Parsed ClassSet
  | .literal l => .ok (.literal l)
  | .property cls => .ok (.property cls)
  | .perl cls => .ok (.perl cls)
  | ast => fail .classEscapeInvalid ast.span

def Literal.ofAst : Ast → Parsed Literal
  | .literal l => .ok l
  | ast => fail .classRangeLiteral ast.span

/-- Reads an item or a range. A dash makes no range in front of a closing bracket or of another
dash. -/
def readClassItem (verbose : Bool) (unclosed : PatternError) (c : Cursor) :
    Parsed (ClassSet × Cursor) := do
  let (low, c) ← readClassAtom verbose c
  let c := c.skipSpace verbose
  if c.isEnd then .error unclosed
  let next := c.peekSpace? verbose
  if c.head? ≠ some '-' ∨ next = some ']' ∨ next = some '-' then
    return (← ClassSet.ofAst low, c)
  let c := c.bumpSpace verbose
  if c.isEnd then .error unclosed
  let (high, c) ← readClassAtom verbose c
  let span : Span := ⟨low.span.first, high.span.last⟩
  let low ← Literal.ofAst low
  let high ← Literal.ofAst high
  if high.char < low.char then fail .classRangeInvalid span
  return (.range span low high, c)

def SetOp.ofChar? : Char → Option SetOp
  | '&' => some .intersection
  | '-' => some .difference
  | '~' => some .symmetricDifference
  | _ => none

/-- Reads a class from its bracket on. Every round passes over a character at least, so that the
length of the text bounds the rounds. -/
def readClass (verbose : Bool) :
    Nat → Cursor → ClassItems → List ClassFrame → Parsed (Ast × Cursor)
  | 0, c, _, stack => .error (unclosedClass c.pos stack)
  | fuel + 1, c, u, stack => do
    let c := c.skipSpace verbose
    match c.head? with
    | none => .error (unclosedClass c.pos stack)
    | some ch =>
      if ch = '[' then
        match if stack.isEmpty then none else readAsciiClass? c with
        | some (item, c) => readClass verbose fuel c (u.push item) stack
        | none =>
          let ((span, negated, inner), c) ← openBracket verbose c
          readClass verbose fuel c inner (.opened u span negated :: stack)
      else if ch = ']' then
        let (body, stack) := applyOp u.toSet stack
        match stack with
        | .opened outer span negated :: rest =>
          let c := c.bump
          let span := c.spanFrom span.first
          if rest.isEmpty then return (.bracketed span negated body, c)
          else readClass verbose fuel c (outer.push (.bracketed span negated body)) rest
        | _ => .error (unclosedClass c.pos stack)
      else
        match if c.peek? = some ch then SetOp.ofChar? ch else none with
        | some kind =>
          let c := c.bump.bump
          let (left, stack) := applyOp u.toSet stack
          readClass verbose fuel c (.empty c.pos) (.op kind left :: stack)
        | none =>
          let (item, c) ← readClassItem verbose (unclosedClass c.pos stack) c
          readClass verbose fuel c (u.push item) stack

def readBracketed (verbose : Bool) (c : Cursor) : Parsed (Ast × Cursor) :=
  readClass verbose (c.rest.length + 1) c (.empty c.pos) []

end FormatScan.Regex
