import FormatScan.Json.Value
/-!
Reading JSON. An error names the line and the column, which counts bytes.
-/

namespace FormatScan.Json

inductive Fault where
  | endInList
  | endInObject
  | endInString
  | endInValue
  | expectedColon
  | expectedListCommaOrEnd
  | expectedObjectCommaOrEnd
  | expectedIdent
  | expectedValue
  | invalidEscape
  | invalidNumber
  | numberOutOfRange
  | controlCharacter
  | keyMustBeString
  | loneSurrogate
  | trailingComma
  | trailingCharacters
  | unexpectedEndOfHexEscape
  | recursionLimitExceeded
deriving DecidableEq

def Fault.message : Fault → String
  | endInList => "EOF while parsing a list"
  | endInObject => "EOF while parsing an object"
  | endInString => "EOF while parsing a string"
  | endInValue => "EOF while parsing a value"
  | expectedColon => "expected `:`"
  | expectedListCommaOrEnd => "expected `,` or `]`"
  | expectedObjectCommaOrEnd => "expected `,` or `\x7d`"
  | expectedIdent => "expected ident"
  | expectedValue => "expected value"
  | invalidEscape => "invalid escape"
  | invalidNumber => "invalid number"
  | numberOutOfRange => "number out of range"
  | controlCharacter =>
    "control character (\\u0000-\\u001F) found while parsing a string"
  | keyMustBeString => "key must be a string"
  | loneSurrogate => "lone leading surrogate in hex escape"
  | trailingComma => "trailing comma"
  | trailingCharacters => "trailing characters"
  | unexpectedEndOfHexEscape => "unexpected end of hex escape"
  | recursionLimitExceeded => "recursion limit exceeded"

/-- A line, and the number of bytes in front of a place on it. -/
structure Place where
  line : Nat
  column : Nat
deriving DecidableEq

structure ReadError where
  fault : Fault
  place : Place
deriving DecidableEq

def Place.suffix (p : Place) : String :=
  " at line " ++ toString p.line ++ " column " ++ toString p.column

def ReadError.message (e : ReadError) : String := e.fault.message ++ e.place.suffix

structure Cursor where
  rest : List Char
  place : Place
deriving DecidableEq

abbrev Reading := Except ReadError

namespace Cursor

def ofString (text : String) : Cursor := ⟨text.toList, ⟨1, 0⟩⟩

def isEnd (c : Cursor) : Bool := c.rest.isEmpty

def head? (c : Cursor) : Option Char := c.rest.head?

def bump (c : Cursor) : Cursor :=
  match c.rest with
  | [] => c
  | ch :: rest =>
    ⟨rest, if ch = '\n' then ⟨c.place.line + 1, 0⟩
      else ⟨c.place.line, c.place.column + ch.utf8Size⟩⟩

def placeAfter (c : Cursor) (count : Nat) : Place :=
  go count c.rest c.place
where
  go : Nat → List Char → Place → Place
    | _, [], p => p
    | count, ch :: rest, p =>
      if count = 0 then p
      else if ch = '\n' then go (count - 1) rest ⟨p.line + 1, 0⟩
      else if ch.utf8Size ≤ count then
        go (count - ch.utf8Size) rest ⟨p.line, p.column + ch.utf8Size⟩
      else ⟨p.line, p.column + count⟩

def fail {α : Type} (c : Cursor) (fault : Fault) : Reading α := .error ⟨fault, c.place⟩

def failAtNext {α : Type} (c : Cursor) (fault : Fault) : Reading α :=
  .error ⟨fault, c.placeAfter 1⟩

def skipSpace (c : Cursor) : Cursor :=
  go c.rest c.place
where
  go : List Char → Place → Cursor
    | [], p => ⟨[], p⟩
    | ch :: rest, p =>
      if ch = '\n' then go rest ⟨p.line + 1, 0⟩
      else if ch = ' ' ∨ ch = '\t' ∨ ch = '\r' then go rest ⟨p.line, p.column + 1⟩
      else ⟨ch :: rest, p⟩

end Cursor

def readLetters (c : Cursor) : List Char → Reading Cursor
  | [] => .ok c
  | letter :: rest =>
    match c.head? with
    | none => c.fail .endInValue
    | some ch => if ch = letter then readLetters c.bump rest else c.failAtNext .expectedIdent

/-! Numbers: whole numbers are exact as long as they fit into 64 bits. -/

def maxNat : Nat := UInt64.size - 1

/-- Reads digits while the number fits, and says whether a further digit follows that makes it too
large. -/
def readDigits (value : Nat) : List Char → Place → Nat × Cursor × Bool
  | [], p => (value, ⟨[], p⟩, false)
  | ch :: rest, p =>
    if ch.isDigit then
      let next := value * 10 + (ch.toNat - 48)
      if maxNat < next then (value, ⟨ch :: rest, p⟩, true)
      else readDigits next rest ⟨p.line, p.column + 1⟩
    else (value, ⟨ch :: rest, p⟩, false)

def skipDigits : List Char → Place → Nat × Cursor
  | [], p => (0, ⟨[], p⟩)
  | ch :: rest, p =>
    if ch.isDigit then
      let (count, c) := skipDigits rest ⟨p.line, p.column + 1⟩
      (count + 1, c)
    else (0, ⟨ch :: rest, p⟩)

/-- `value · 10 ^ exponent`, by one division or multiplication where the power is a number that
can be written, and in steps of the greatest such power for smaller numbers. -/
def scaleFloat (value : Float) (exponent : Int) : Nat → Option Float
  | 0 => some value
  | fuel + 1 =>
    if exponent.natAbs ≤ 308 then
      let power := Float.ofScientific 1 false exponent.natAbs
      if 0 ≤ exponent then
        let product := value * power
        if product.isInf then none else some product
      else some (value / power)
    else if value == 0 then some value
    else if 0 ≤ exponent then none
    else scaleFloat (value / 1e308) (exponent + 308) fuel

def finishFloat (positive : Bool) (significand : Nat) (exponent : Int) (c : Cursor) :
    Reading (Json × Cursor) :=
  match scaleFloat (Float.ofNat significand) exponent (exponent.natAbs / 308 + 2) with
  | none => c.fail .numberOutOfRange
  | some value => .ok (.float (if positive then value else -value), c)

def digitsValue (digits : List Char) : Nat :=
  digits.foldl (fun n d => n * 10 + (d.toNat - 48)) 0

def maxExponent : Nat := 2147483647

def isExponentMark (c : Option Char) : Bool := c == some 'e' || c == some 'E'

def readExponent (positive : Bool) (significand : Nat) (exponent : Int) (c : Cursor) :
    Reading (Json × Cursor) :=
  let c := c.bump
  let negative := c.head? == some '-'
  let c := if negative || c.head? == some '+' then c.bump else c
  match c.head? with
  | none => c.fail .endInValue
  | some ch =>
    if !ch.isDigit then c.failAtNext .invalidNumber
    else
      let digits := c.rest.takeWhile Char.isDigit
      let value := digitsValue digits
      let (_, last) := skipDigits c.rest c.place
      if maxExponent < value then
        if significand != 0 && !negative then
          -- The number is refused as soon as its exponent is too large.
          let fitting := (List.range digits.length).takeWhile fun i =>
            digitsValue (digits.take (i + 1)) ≤ maxExponent
          .error ⟨.numberOutOfRange, c.placeAfter (fitting.length + 1)⟩
        else .ok (.float (if positive then 0.0 else -0.0), last)
      else
        let total : Int := if negative then exponent - value else exponent + value
        finishFloat positive significand total last

def readFraction (positive : Bool) (significand : Nat) (exponent : Int) (c : Cursor) :
    Reading (Json × Cursor) :=
  let c := c.bump
  let (value, last, tooLarge) := readDigits significand c.rest c.place
  let count := c.rest.length - last.rest.length
  let exponent : Int := exponent - count
  if tooLarge then
    let (_, last) := skipDigits last.rest last.place
    if isExponentMark last.head? then readExponent positive value exponent last
    else finishFloat positive value exponent last
  else if count = 0 then
    if c.isEnd then c.fail .endInValue else c.failAtNext .invalidNumber
  else if isExponentMark last.head? then readExponent positive value exponent last
  else finishFloat positive value exponent last

def readNumberRest (positive : Bool) (significand : Nat) (c : Cursor) : Reading (Json × Cursor) :=
  if c.head? = some '.' then readFraction positive significand 0 c
  else if isExponentMark c.head? then readExponent positive significand 0 c
  else if positive then .ok (.nat significand, c)
  else if significand = 0 ∨ UInt64.size / 2 < significand then
    .ok (.float (-(Float.ofNat significand)), c)
  else .ok (.negative (-(significand : Int)), c)

def readNumber (positive : Bool) (c : Cursor) : Reading (Json × Cursor) :=
  match c.head? with
  | none => c.fail .endInValue
  | some ch =>
    if ch = '0' then
      let c := c.bump
      if (c.head?.map Char.isDigit).getD false then c.failAtNext .invalidNumber
      else readNumberRest positive 0 c
    else if ch.isDigit then
      let (value, last, tooLarge) := readDigits 0 c.rest c.place
      if tooLarge then
        let (count, last) := skipDigits last.rest last.place
        if last.head? = some '.' then readFraction positive value count last
        else if isExponentMark last.head? then readExponent positive value count last
        else finishFloat positive value count last
      else readNumberRest positive value last
    else c.failAtNext .invalidNumber

/-! Strings. -/

def hexValue? (c : Char) : Option Nat :=
  let n := c.toNat
  if 48 ≤ n && n ≤ 57 then some (n - 48)
  else if 65 ≤ n && n ≤ 70 then some (n - 55)
  else if 97 ≤ n && n ≤ 102 then some (n - 87)
  else none

def readHex4 (c : Cursor) : Reading (Nat × Cursor) :=
  if (c.rest.take 4).foldr (fun ch n => ch.utf8Size + n) 0 < 4 then
    .error ⟨.endInString, c.placeAfter 4⟩
  else
    match (c.rest.take 4).mapM hexValue? with
    | some [a, b, d, e] =>
      .ok (((a * 16 + b) * 16 + d) * 16 + e, c.bump.bump.bump.bump)
    | _ => .error ⟨.invalidEscape, c.placeAfter 4⟩

def expectInEscape (c : Cursor) (expected : Char) : Reading Cursor :=
  match c.head? with
  | none => c.fail .endInString
  | some ch => if ch = expected then .ok c.bump else c.failAtNext .unexpectedEndOfHexEscape

/-- Reads the code of `\u`; a code of the first half of a pair needs the second half. -/
def readUnicodeEscape (c : Cursor) : Reading (Char × Cursor) := do
  let (high, c) ← readHex4 c
  if 0xDC00 ≤ high ∧ high ≤ 0xDFFF then c.fail .loneSurrogate
  else if high < 0xD800 ∨ 0xDBFF < high then return (Char.ofNat high, c)
  else
    let c ← expectInEscape c '\\'
    let c ← expectInEscape c 'u'
    let (low, c) ← readHex4 c
    if low < 0xDC00 ∨ 0xDFFF < low then c.fail .loneSurrogate
    else return (Char.ofNat (0x10000 + (high - 0xD800) * 1024 + (low - 0xDC00)), c)

def simpleEscape? : Char → Option Char
  | '"' => some '"'
  | '\\' => some '\\'
  | '/' => some '/'
  | 'b' => some '\x08'
  | 'f' => some '\x0C'
  | 'n' => some '\n'
  | 'r' => some '\r'
  | 't' => some '\t'
  | _ => none

def readEscape (c : Cursor) : Reading (Char × Cursor) :=
  match c.head? with
  | none => c.fail .endInString
  | some ch =>
    if ch = 'u' then readUnicodeEscape c.bump
    else
      match simpleEscape? ch with
      | some char => .ok (char, c.bump)
      | none => c.failAtNext .invalidEscape

def readChars : (fuel : Nat) → Cursor → Reading (List Char × Cursor)
  | 0, c => c.fail .endInString
  | fuel + 1, c =>
    match c.head? with
    | none => c.fail .endInString
    | some ch =>
      if ch = '"' then .ok ([], c.bump)
      else if ch.toNat < 32 then c.bump.fail .controlCharacter
      else do
        let (char, c) ← if ch = '\\' then readEscape c.bump else .ok (ch, c.bump)
        let (chars, c) ← readChars fuel c
        return (char :: chars, c)

def readString (c : Cursor) : Reading (String × Cursor) := do
  let c := c.bump
  let (chars, c) ← readChars (c.rest.length + 1) c
  return (String.ofList chars, c)

/-! Lists and objects. -/

/-- Moves to the next item of a list; `none` is the closing bracket. -/
def nextItem? (isFirst : Bool) (c : Cursor) : Reading (Option Cursor) :=
  let c := c.skipSpace
  match c.head? with
  | none => c.fail .endInList
  | some ch =>
    if ch = ']' then .ok none
    else if isFirst then .ok (some c)
    else if ch = ',' then
      let c := c.bump.skipSpace
      match c.head? with
      | none => c.fail .endInValue
      | some ch => if ch = ']' then c.failAtNext .trailingComma else .ok (some c)
    else c.failAtNext .expectedListCommaOrEnd

def nextName? (isFirst : Bool) (c : Cursor) : Reading (Option Cursor) :=
  let c := c.skipSpace
  match c.head? with
  | none => c.fail .endInObject
  | some ch =>
    if ch = '}' then .ok none
    else if isFirst then
      if ch = '"' then .ok (some c) else c.failAtNext .keyMustBeString
    else if ch = ',' then
      let c := c.bump.skipSpace
      match c.head? with
      | none => c.fail .endInValue
      | some ch =>
        if ch = '"' then .ok (some c)
        else if ch = '}' then c.failAtNext .trailingComma
        else c.failAtNext .keyMustBeString
    else c.failAtNext .expectedObjectCommaOrEnd

def readColon (c : Cursor) : Reading Cursor :=
  let c := c.skipSpace
  match c.head? with
  | none => c.fail .endInObject
  | some ch => if ch = ':' then .ok c.bump else c.failAtNext .expectedColon

def descend (depth : Nat) (c : Cursor) : Reading Nat :=
  if depth ≤ 1 then c.failAtNext .recursionLimitExceeded else .ok (depth - 1)

mutual

/-- Reads a value. Of two calls, one within the other, one passes over a character at least, so that
twice the length of the text bounds the calls. -/
def readValue : (fuel depth : Nat) → Cursor → Reading (Json × Cursor)
  | 0, _, c => c.fail .endInValue
  | fuel + 1, depth, c =>
    let c := c.skipSpace
    match c.head? with
    | none => c.fail .endInValue
    | some ch =>
      if ch = 'n' then (readLetters c.bump ['u', 'l', 'l']).map (.null, ·)
      else if ch = 't' then (readLetters c.bump ['r', 'u', 'e']).map (.bool true, ·)
      else if ch = 'f' then (readLetters c.bump ['a', 'l', 's', 'e']).map (.bool false, ·)
      else if ch = '-' then readNumber false c.bump
      else if ch.isDigit then readNumber true c
      else if ch = '"' then (readString c).map fun (s, c) => (.string s, c)
      else if ch = '[' then do
        let depth ← descend depth c
        let (items, c) ← readItems fuel depth true c.bump
        return (.array items, c)
      else if ch = '{' then do
        let depth ← descend depth c
        let (members, c) ← readMembers fuel depth true c.bump
        return (.ofMembers members, c)
      else c.failAtNext .expectedValue

def readItems : (fuel depth : Nat) → Bool → Cursor → Reading (List Json × Cursor)
  | 0, _, _, c => c.fail .endInList
  | fuel + 1, depth, isFirst, c => do
    match ← nextItem? isFirst c with
    | none => return ([], c.skipSpace.bump)
    | some c =>
      let (item, c) ← readValue fuel depth c
      let (items, c) ← readItems fuel depth false c
      return (item :: items, c)

def readMembers : (fuel depth : Nat) → Bool → Cursor → Reading (List (String × Json) × Cursor)
  | 0, _, _, c => c.fail .endInObject
  | fuel + 1, depth, isFirst, c => do
    match ← nextName? isFirst c with
    | none => return ([], c.skipSpace.bump)
    | some c =>
      let (name, c) ← readString c
      let c ← readColon c
      let (value, c) ← readValue fuel depth c
      let (members, c) ← readMembers fuel depth false c
      return ((name, value) :: members, c)

end

/-- The number of levels that a text may have, less one. -/
def maxDepth : Nat := 128

def expectEnd (c : Cursor) : Reading Unit :=
  let c := c.skipSpace
  if c.isEnd then .ok () else c.failAtNext .trailingCharacters

def parse (text : String) : Reading Json := do
  let c := Cursor.ofString text
  let (value, c) ← readValue (2 * c.rest.length + 1) maxDepth c
  expectEnd c
  return value

end FormatScan.Json
