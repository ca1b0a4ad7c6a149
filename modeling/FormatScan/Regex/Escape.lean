import FormatScan.Regex.Ast
/-!
Escape sequences: what a backslash and the signs behind it stand for.
-/

namespace FormatScan.Regex

abbrev Parsed := Except PatternError

def fail {α : Type} (fault : Fault) (span : Span) : Parsed α :=
  .error ⟨fault, span⟩

/-- The signs that a backslash lets stand for themselves: those of ASCII but letters, digits and
angle brackets. -/
def isEscapable (c : Char) : Bool :=
  c.toNat < 128 && !c.isAlphanum && c != '<' && c != '>'

def hexValue? (c : Char) : Option Nat :=
  let n := c.toNat
  if 48 ≤ n && n ≤ 57 then some (n - 48)
  else if 65 ≤ n && n ≤ 70 then some (n - 55)
  else if 97 ≤ n && n ≤ 102 then some (n - 87)
  else none

def scalar? (n : Nat) : Option Char :=
  if n < 0xD800 || (0xDFFF < n && n < 0x110000) then some (Char.ofNat n) else none

def readHexDigits (verbose : Bool) (value : Nat) : Nat → Cursor → Parsed (Nat × Cursor)
  | 0, c => .ok (value, c)
  | count + 1, c =>
    match c.head? with
    | none => fail .escapeUnexpectedEnd (.at c.pos)
    | some ch =>
      match hexValue? ch with
      | none => fail .hexInvalidDigit c.charSpan
      | some digit => readHexDigits verbose (value * 16 + digit) count (c.bumpSpace verbose)

/-- Reads digits up to a closing brace; `none` is a number without a digit. -/
def readBracedHexDigits (verbose : Bool) (value : Option Nat) :
    Nat → Cursor → Parsed (Option Nat × Cursor)
  | 0, c => .ok (value, c)
  | fuel + 1, c =>
    match c.head? with
    | none => .ok (value, c)
    | some ch =>
      if ch = '}' then .ok (value, c)
      else
        match hexValue? ch with
        | none => fail .hexInvalidDigit c.charSpan
        | some digit =>
          readBracedHexDigits verbose (some (value.getD 0 * 16 + digit)) fuel
            (c.bumpSpace verbose)

def readHex (verbose : Bool) (start : Position) (kind : Char) (c : Cursor) :
    Parsed (Literal × Cursor) := do
  let c := c.bumpSpace verbose
  match c.head? with
  | none => fail .escapeUnexpectedEnd (.at c.pos)
  | some '{' =>
    let brace := c.pos
    let inner := c.bump.pos
    let (value, c) ← readBracedHexDigits verbose none (c.rest.length + 1) (c.bumpSpace verbose)
    if c.isEnd then fail .escapeUnexpectedEnd (c.spanFrom brace)
    else
      let last := c.pos
      let c := c.bumpSpace verbose
      match value with
      | none => fail .hexEmpty (c.spanFrom brace)
      | some value =>
        match scalar? value with
        | none => fail .hexInvalid ⟨inner, last⟩
        | some char => .ok (⟨c.spanFrom start, char, false⟩, c)
  | some _ =>
    let inner := c.pos
    let count := if kind = 'x' then 2 else if kind = 'u' then 4 else 8
    let (value, c) ← readHexDigits verbose 0 count c
    match scalar? value with
    | none => fail .hexInvalid (c.spanFrom inner)
    | some char => .ok (⟨c.spanFrom start, char, kind = 'x'⟩, c)

def readBraced (verbose : Bool) : Nat → Cursor → List Char × Cursor
  | 0, c => ([], c)
  | fuel + 1, c =>
    match c.head? with
    | none => ([], c)
    | some ch =>
      if ch = '}' then ([], c)
      else
        let (chars, last) := readBraced verbose fuel (c.bumpSpace verbose)
        (ch :: chars, last)

def cutAt? (mark : List Char) : List Char → Option (List Char × List Char)
  | [] => none
  | ch :: rest =>
    if mark.isPrefixOf (ch :: rest) then some ([], (ch :: rest).drop mark.length)
    else (cutAt? mark rest).map fun (before, after) => (ch :: before, after)

/-- Reads the text between the braces of a property, and whether it asks for the characters outside
of the set. -/
def PropertyQuery.ofText (text : List Char) : PropertyQuery × Bool :=
  match cutAt? ['!', '='] text with
  | some (name, value) => (.valued (String.ofList name) (String.ofList value), true)
  | none =>
    match (cutAt? [':'] text).or (cutAt? ['='] text) with
    | some (name, value) => (.valued (String.ofList name) (String.ofList value), false)
    | none => (.named (String.ofList text), false)

def readProperty (verbose : Bool) (start : Position) (kind : Char) (c : Cursor) :
    Parsed (PropertyClass × Cursor) :=
  let c := c.bumpSpace verbose
  match c.head? with
  | none => fail .escapeUnexpectedEnd (.at c.pos)
  | some ch =>
    if ch = '{' then
      let (text, c) := readBraced verbose (c.rest.length + 1) (c.bumpSpace verbose)
      if c.isEnd then fail .escapeUnexpectedEnd (.at c.pos)
      else
        let (query, isUnequal) := PropertyQuery.ofText text
        .ok (⟨c.bump.spanFrom start, (kind = 'P') != isUnequal, query⟩, c.bump)
    else if ch = '\\' then fail .unicodeClassInvalid c.charSpan
    else
      let c := c.bumpSpace verbose
      .ok (⟨c.spanFrom start, kind = 'P', .named ch.toString⟩, c)

def PerlClass.ofLetter? (span : Span) : Char → Option PerlClass
  | 'd' => some ⟨span, false, .digit⟩
  | 'D' => some ⟨span, true, .digit⟩
  | 's' => some ⟨span, false, .space⟩
  | 'S' => some ⟨span, true, .space⟩
  | 'w' => some ⟨span, false, .word⟩
  | 'W' => some ⟨span, true, .word⟩
  | _ => none

def isBoundaryNameChar (c : Char) : Bool := c.isAlpha || c == '-'

def Assertion.ofBoundaryName? : String → Option Assertion
  | "start" => some .wordStart
  | "end" => some .wordEnd
  | "start-half" => some .wordStartHalf
  | "end-half" => some .wordEndHalf
  | _ => none

def readBoundaryName (verbose : Bool) : Nat → Cursor → List Char × Cursor
  | 0, c => ([], c)
  | fuel + 1, c =>
    match c.head? with
    | none => ([], c)
    | some ch =>
      if isBoundaryNameChar ch then
        let (chars, last) := readBoundaryName verbose fuel (c.bumpSpace verbose)
        (ch :: chars, last)
      else ([], c)

/-- Reads the name behind `\b`, with the cursor on the brace. Braces that hold no name are left to
be read as a repetition. -/
def readBoundary? (verbose : Bool) (start : Position) (c : Cursor) :
    Parsed (Option (Assertion × Cursor)) :=
  let inner := c.bumpSpace verbose
  match inner.head? with
  | none => fail .wordBoundaryUnexpectedEnd (inner.spanFrom start)
  | some ch =>
    if !isBoundaryNameChar ch then .ok none
    else
      let (name, last) := readBoundaryName verbose (inner.rest.length + 1) inner
      if last.head? = some '}' then
        match Assertion.ofBoundaryName? (String.ofList name) with
        | some kind => .ok (some (kind, last.bump))
        | none => fail .wordBoundaryUnrecognized (last.spanFrom inner.pos)
      else fail .wordBoundaryUnclosed (last.spanFrom c.pos)

def controlEscape? : Char → Option Char
  | 'a' => some '\x07'
  | 'f' => some '\x0C'
  | 't' => some '\t'
  | 'n' => some '\n'
  | 'r' => some '\r'
  | 'v' => some '\x0B'
  | _ => none

def Assertion.ofLetter? : Char → Option Assertion
  | 'A' => some .startText
  | 'z' => some .endText
  | 'b' => some .wordBoundary
  | 'B' => some .notWordBoundary
  | '<' => some .wordStart
  | '>' => some .wordEnd
  | _ => none

def readSimpleEscape (verbose : Bool) (start : Position) (ch : Char) (c : Cursor) :
    Parsed (Ast × Cursor) := do
  let span := c.spanFrom start
  if isEscapable ch then return (.literal ⟨span, ch, false⟩, c)
  match controlEscape? ch with
  | some char => return (.literal ⟨span, char, false⟩, c)
  | none =>
    match Assertion.ofLetter? ch with
    | none => fail .escapeUnrecognized span
    | some kind =>
      if ch = 'b' && c.head? = some '{' then
        match ← readBoundary? verbose start c with
        | some (special, c) => return (.assertion (c.spanFrom start) special, c)
        | none => return (.assertion span kind, c)
      else return (.assertion span kind, c)

def readEscape (verbose : Bool) (c : Cursor) : Parsed (Ast × Cursor) := do
  let start := c.pos
  let c := c.bump
  match c.head? with
  | none => fail .escapeUnexpectedEnd (c.spanFrom start)
  | some ch =>
    if ch.isDigit then fail .backreference (c.bump.spanFrom start)
    else if ch = 'x' || ch = 'u' || ch = 'U' then
      let (literal, c) ← readHex verbose start ch c
      return (.literal literal, c)
    else if ch = 'p' || ch = 'P' then
      let (cls, c) ← readProperty verbose start ch c
      return (.property cls, c)
    else
      match PerlClass.ofLetter? (c.bump.spanFrom start) ch with
      | some cls => return (.perl cls, c.bump)
      | none => readSimpleEscape verbose start ch c.bump

end FormatScan.Regex
