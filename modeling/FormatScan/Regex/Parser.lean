import FormatScan.Regex.Bracket
import FormatScan.Unicode.Newest
/-!
Reading a pattern: one pass from left to right with a stack of the groups and alternations that are
still open.
-/

namespace FormatScan.Regex

/-- Parts that follow one another, the last one first. -/
structure Parts where
  first : Position
  parts : List Ast

namespace Parts

def empty (p : Position) : Parts := ⟨p, []⟩

def push (c : Parts) (part : Ast) : Parts := ⟨c.first, part :: c.parts⟩

def toAst (c : Parts) (last : Position) : Ast :=
  match c.parts with
  | [] => .empty ⟨c.first, last⟩
  | [part] => part
  | parts => .concat ⟨c.first, last⟩ parts.reverse

end Parts

inductive GroupKind where
  | capture
  | plain (items : List FlagItem)

def GroupKind.toAst (kind : GroupKind) (span : Span) (body : Ast) : Ast :=
  match kind with
  | capture => .capture span body
  | plain items => .group span items body

/-- Something that is open: a group with what stands before it and the mode to go back to, or the
branches of an alternation, the last one first. -/
inductive Frame where
  | group (outer : Parts) (span : Span) (kind : GroupKind) (verbose : Bool)
  | alternation (first : Position) (branches : List Ast)

structure ParseState where
  cursor : Cursor
  /-- Whether white space and comments are passed over. -/
  verbose : Bool
  parts : Parts
  stack : List Frame
  names : List (String × Span)

namespace ParseState

def start (pattern : String) : ParseState :=
  ⟨.ofString pattern, false, .empty .start, [], []⟩

def readFlags (items : List FlagItem) (dangling : Option Span) :
    Nat → Cursor → Parsed (List FlagItem × Cursor)
  | 0, c => fail .flagUnexpectedEnd (.at c.pos)
  | fuel + 1, c =>
    match c.head? with
    | none => fail .flagUnexpectedEnd (.at c.pos)
    | some ch =>
      if ch = ':' ∨ ch = ')' then
        match dangling with
        | some span => fail .flagDanglingNegation span
        | none => .ok (items.reverse, c)
      else
        let flag := Flag.ofChar? ch
        if flag.isNone && ch != '-' then fail .flagUnrecognized c.charSpan
        else
          match items.find? (·.flag = flag) with
          | some earlier =>
            fail (if flag.isNone then .flagRepeatedNegation earlier.span
              else .flagDuplicate earlier.span) c.charSpan
          | none =>
            readFlags (⟨c.charSpan, flag⟩ :: items)
              (if flag.isNone then some c.charSpan else none) fuel c.bump

def isNameChar (isFirst : Bool) (c : Char) : Bool :=
  if isFirst then c == '_' || Unicode.isAlphabetic c
  else c == '_' || c == '.' || c == '[' || c == ']' || Unicode.isAlphabetic c ||
    Unicode.isNumeric c

def readGroupName (isFirst : Bool) : Nat → Cursor → Parsed (List Char × Cursor)
  | 0, c => fail .groupNameUnexpectedEnd (.at c.pos)
  | fuel + 1, c =>
    match c.head? with
    | none => fail .groupNameUnexpectedEnd (.at c.pos)
    | some ch =>
      if ch = '>' then .ok ([], c)
      else if !isNameChar isFirst ch then fail .groupNameInvalid c.charSpan
      else do
        let (name, c) ← readGroupName false fuel c.bump
        return (ch :: name, c)

def enterGroup (s : ParseState) (span : Span) (kind : GroupKind) (verbose : Bool) (c : Cursor) :
    ParseState :=
  { s with
    cursor := c
    verbose := verbose
    parts := .empty c.pos
    stack := .group s.parts span kind s.verbose :: s.stack }

def openNamedGroup (s : ParseState) (span : Span) (c : Cursor) : Parsed ParseState := do
  let (name, last) ← readGroupName true (c.rest.length + 1) c
  let name := String.ofList name
  let nameSpan := last.spanFrom c.pos
  if name.isEmpty then fail .groupNameEmpty nameSpan
  match s.names.find? (·.1 = name) with
  | some (_, earlier) => fail (.groupNameDuplicate earlier) nameSpan
  | none =>
    return { s.enterGroup span .capture s.verbose last.bump with
      names := (name, nameSpan) :: s.names }

/-- Reads what follows the signs `(?`: flags for the rest of the group around it, or a group with
flags of its own. -/
def openFlagGroup (s : ParseState) (span inner : Span) (c : Cursor) :
    Parsed ParseState := do
  if c.isEnd then fail .groupUnclosed span
  let (items, last) ← readFlags [] none (c.rest.length + 1) c
  let verbose := (flagState .ignoreWhitespace items).getD s.verbose
  let isDirective := last.head? == some ')'
  let c := last.bump
  if isDirective then
    if items.isEmpty then fail .repetitionMissing inner
    return { s with
      cursor := c
      verbose := verbose
      parts := s.parts.push (.flags (c.spanFrom span.first) items) }
  else
    return s.enterGroup span (.plain items) verbose c

def lookAroundMarks : List (List Char) :=
  [['?', '='], ['?', '!'], ['?', '<', '='], ['?', '<', '!']]

def openGroup (s : ParseState) : Parsed ParseState :=
  let span := s.cursor.charSpan
  let c := s.cursor.bumpSpace s.verbose
  match lookAroundMarks.findSome? c.bumpIf? with
  | some last => fail .lookAround (last.spanFrom span.first)
  | none =>
    match (c.bumpIf? ['?', 'P', '<']).or (c.bumpIf? ['?', '<']) with
    | some name => s.openNamedGroup span name
    | none =>
      match c.bumpIf? ['?'] with
      | some flags => s.openFlagGroup span (.at c.pos) flags
      | none => .ok (s.enterGroup span .capture s.verbose c)

def pushBranch (s : ParseState) : ParseState :=
  let branch := s.parts.toAst s.cursor.pos
  let c := s.cursor.bump
  { s with
    cursor := c
    parts := .empty c.pos
    stack :=
      match s.stack with
      | .alternation first branches :: rest => .alternation first (branch :: branches) :: rest
      | stack => .alternation s.parts.first [branch] :: stack }

/-- Takes the body that ends at `last` off the stack, together with the branches before it. -/
def popBody (s : ParseState) (last : Position) : Ast × List Frame :=
  let body := s.parts.toAst last
  match s.stack with
  | .alternation first branches :: rest =>
    (.alternation ⟨first, last⟩ (body :: branches).reverse, rest)
  | stack => (body, stack)

def closeGroup (s : ParseState) : Parsed ParseState :=
  let (body, stack) := s.popBody s.cursor.pos
  match stack with
  | .group outer span kind verbose :: rest =>
    let c := s.cursor.bump
    .ok { s with
      cursor := c
      verbose := verbose
      parts := outer.push (kind.toAst (c.spanFrom span.first) body)
      stack := rest }
  | _ => fail .groupUnopened s.cursor.charSpan

def popOperand (s : ParseState) : Parsed (Ast × Parts) :=
  match s.parts.parts with
  | [] => fail .repetitionMissing (.at s.cursor.pos)
  | .empty _ :: _ => fail .repetitionMissing (.at s.cursor.pos)
  | .flags _ _ :: _ => fail .repetitionMissing (.at s.cursor.pos)
  | part :: rest => .ok (part, ⟨s.parts.first, rest⟩)

def pushRepetition (s : ParseState) (parts : Parts) (part : Ast) (min : Nat) (max : Option Nat)
    (greedy : Bool) (c : Cursor) : ParseState :=
  { s with
    cursor := c
    parts := parts.push (.repetition (c.spanFrom part.span.first) min max greedy part) }

def readGreed (c : Cursor) : Bool × Cursor :=
  if c.head? = some '?' then (false, c.bump) else (true, c)

def repeatSimple (s : ParseState) (min : Nat) (max : Option Nat) :
    Parsed ParseState := do
  let (part, parts) ← s.popOperand
  let (greedy, c) := readGreed s.cursor.bump
  return s.pushRepetition parts part min max greedy c

def readDigits (verbose : Bool) : Nat → Cursor → List Char × Cursor
  | 0, c => ([], c)
  | fuel + 1, c =>
    match c.head? with
    | none => ([], c)
    | some ch =>
      if ch.isDigit then
        let (digits, last) := readDigits verbose fuel (c.bumpSpace verbose)
        (ch :: digits, last)
      else ([], c)

def skipBlanks (verbose : Bool) : Nat → Cursor → Cursor
  | 0, c => c
  | fuel + 1, c =>
    if (c.head?.map Text.isBlank).getD false then skipBlanks verbose fuel (c.bumpSpace verbose)
    else c

def maxCount : Nat := 4294967295

/-- Reads a count with white space around it. The cursor moves on past a count that is none, for
other errors go before that one. -/
def readCount (verbose : Bool) (c : Cursor) : Parsed Nat × Cursor :=
  let c := skipBlanks false (c.rest.length + 1) c
  let (digits, last) := readDigits verbose (c.rest.length + 1) c
  let span := last.spanFrom c.pos
  let value := digits.foldl (fun n d => n * 10 + (d.toNat - 48)) 0
  (if digits.isEmpty then fail .countEmpty span
    else if maxCount < value then fail .decimalInvalid span
    else .ok value,
    skipBlanks verbose (last.rest.length + 1) last)

def readCounts (verbose : Bool) (start : Position) (c : Cursor) :
    Parsed ((Nat × Option Nat) × Cursor) := do
  let (low, c) := readCount verbose c
  if c.isEnd then fail .countUnclosed (c.spanFrom start)
  if c.head? = some ',' then
    let c := c.bumpSpace verbose
    if c.isEnd then fail .countUnclosed (c.spanFrom start)
    if c.head? = some '}' then
      return ((← low, none), c)
    else
      let low ← low
      let (high, c) := readCount verbose c
      return ((low, some (← high)), c)
  else
    let low ← low
    return ((low, some low), c)

def repeatCounted (s : ParseState) : Parsed ParseState := do
  let (part, parts) ← s.popOperand
  let start := s.cursor.pos
  let c := s.cursor.bumpSpace s.verbose
  if c.isEnd then fail .countUnclosed (c.spanFrom start)
  let ((min, max), c) ← readCounts s.verbose start c
  if c.head? ≠ some '}' then fail .countUnclosed (c.spanFrom start)
  let (greedy, c) := readGreed (c.bumpSpace s.verbose)
  if (max.map fun max => decide (max < min)).getD false then fail .countInvalid (c.spanFrom start)
  return s.pushRepetition parts part min max greedy c

def readPlain (s : ParseState) (ch : Char) : Parsed (Ast × Cursor) :=
  let c := s.cursor
  if ch = '\\' then readEscape s.verbose c
  else if ch = '.' then .ok (.dot c.charSpan, c.bump)
  else if ch = '^' then .ok (.assertion c.charSpan .startLine, c.bump)
  else if ch = '$' then .ok (.assertion c.charSpan .endLine, c.bump)
  else .ok (.literal ⟨c.charSpan, ch, false⟩, c.bump)

def step (s : ParseState) (ch : Char) : Parsed ParseState :=
  if ch = '(' then s.openGroup
  else if ch = ')' then s.closeGroup
  else if ch = '|' then .ok s.pushBranch
  else if ch = '?' then s.repeatSimple 0 (some 1)
  else if ch = '*' then s.repeatSimple 0 none
  else if ch = '+' then s.repeatSimple 1 none
  else if ch = '{' then s.repeatCounted
  else do
    let (part, c) ← if ch = '[' then readBracketed s.verbose s.cursor else s.readPlain ch
    return { s with cursor := c, parts := s.parts.push part }

def finish (s : ParseState) : Parsed Ast :=
  let (body, stack) := s.popBody s.cursor.pos
  match stack with
  | [] => .ok body
  | .group _ span _ _ :: _ => fail .groupUnclosed span
  | .alternation .. :: _ => .ok body

/-- Reads the rest of the pattern. Every step passes over a character at least, so that the length
of the text bounds the steps. -/
def run : Nat → ParseState → Parsed Ast
  | 0, s => s.finish
  | fuel + 1, s =>
    let s := { s with cursor := s.cursor.skipSpace s.verbose }
    match s.cursor.head? with
    | none => s.finish
    | some ch => do run fuel (← s.step ch)

end ParseState

def nestLimit : Nat := 250

def deeper (depth : Nat) (span : Span) : Parsed Nat :=
  if depth < nestLimit then .ok (depth + 1) else fail (.nestLimitExceeded nestLimit) span

mutual

def ClassSet.checkDepth (depth : Nat) : ClassSet → Parsed Unit
  | .bracketed span _ body => do body.checkDepth (← deeper depth span)
  | .union span items => do ClassSet.checkDepthAll (← deeper depth span) items
  | .op span _ left right => do
    let depth ← deeper depth span
    left.checkDepth depth
    right.checkDepth depth
  | _ => .ok ()

def ClassSet.checkDepthAll (depth : Nat) : List ClassSet → Parsed Unit
  | [] => .ok ()
  | item :: rest => do
    item.checkDepth depth
    ClassSet.checkDepthAll depth rest

end

mutual

/-- Refuses what is nested too deeply, at the first such part. -/
def Ast.checkDepth (depth : Nat) : Ast → Parsed Unit
  | .bracketed span _ body => do body.checkDepth (← deeper depth span)
  | .repetition span _ _ _ body => do body.checkDepth (← deeper depth span)
  | .capture span body => do body.checkDepth (← deeper depth span)
  | .group span _ body => do body.checkDepth (← deeper depth span)
  | .alternation span branches => do Ast.checkDepthAll (← deeper depth span) branches
  | .concat span parts => do Ast.checkDepthAll (← deeper depth span) parts
  | _ => .ok ()

def Ast.checkDepthAll (depth : Nat) : List Ast → Parsed Unit
  | [] => .ok ()
  | part :: rest => do
    part.checkDepth depth
    Ast.checkDepthAll depth rest

end

def Ast.ofPattern (pattern : String) : Parsed Ast := do
  let state := ParseState.start pattern
  let ast ← state.run (state.cursor.rest.length + 1)
  ast.checkDepth 0
  return ast

end FormatScan.Regex
