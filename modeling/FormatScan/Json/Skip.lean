import FormatScan.Json.Reader
/-!
Passing over a JSON value that is of no interest. Less is asked of it than of a value that is read:
numbers may be of any size, and the codes of escaped characters may be any.
-/

namespace FormatScan.Json

def skipExponent (c : Cursor) : Reading Cursor :=
  let c := c.bump
  let c := if c.head? == some '+' || c.head? == some '-' then c.bump else c
  if (c.head?.map Char.isDigit).getD false then .ok (skipDigits c.rest c.place).2
  else c.failAtNext .invalidNumber

def skipFraction (c : Cursor) : Reading Cursor :=
  let (count, last) := skipDigits c.bump.rest c.bump.place
  if count = 0 then last.failAtNext .invalidNumber
  else if isExponentMark last.head? then skipExponent last
  else .ok last

def skipNumber (c : Cursor) : Reading Cursor :=
  let isDigit (c : Cursor) : Bool := (c.head?.map Char.isDigit).getD false
  if !isDigit c then c.failAtNext .invalidNumber
  else
    let last := if c.head? = some '0' then c.bump else (skipDigits c.rest c.place).2
    if isDigit last then last.failAtNext .invalidNumber
    else if last.head? = some '.' then skipFraction last
    else if isExponentMark last.head? then skipExponent last
    else .ok last

def skipEscape (c : Cursor) : Reading Cursor :=
  match c.head? with
  | none => c.fail .endInString
  | some ch =>
    if ch = 'u' then (readHex4 c.bump).map (·.2)
    else if (simpleEscape? ch).isSome then .ok c.bump
    else c.failAtNext .invalidEscape

def skipChars : (fuel : Nat) → Cursor → Reading Cursor
  | 0, c => c.fail .endInString
  | fuel + 1, c =>
    match c.head? with
    | none => c.fail .endInString
    | some ch =>
      if ch = '"' then .ok c.bump
      else if ch = '\\' then do skipChars fuel (← skipEscape c.bump)
      else if ch.toNat < 32 then c.fail .controlCharacter
      else skipChars fuel c.bump

def skipString (c : Cursor) : Reading Cursor := skipChars (c.rest.length + 1) c.bump

inductive Enclosing where
  | list
  | object
deriving DecidableEq

namespace Enclosing

def closing : Enclosing → Char
  | list => ']'
  | object => '}'

def endFault : Enclosing → Fault
  | list => .endInList
  | object => .endInObject

def commaFault : Enclosing → Fault
  | list => .expectedListCommaOrEnd
  | object => .expectedObjectCommaOrEnd

end Enclosing

def skipName (c : Cursor) : Reading Cursor := do
  let c := c.skipSpace
  match c.head? with
  | none => c.fail .endInObject
  | some ch =>
    if ch = '"' then readColon (← skipString c) else c.failAtNext .keyMustBeString

/-- Moves behind a value to the value that comes next in the list or object around it, or out of
that one if it ends. Without `mayContinue` the list or object has just begun. -/
def skipBetween : (fuel : Nat) → Bool → List Enclosing → Cursor →
    Reading (List Enclosing × Cursor)
  | 0, _, stack, c => .ok (stack, c)
  | _, _, [], c => .ok ([], c)
  | fuel + 1, mayContinue, around :: stack, c =>
    let c := c.skipSpace
    let enter (c : Cursor) : Reading (List Enclosing × Cursor) := do
      match around with
      | .list => return (around :: stack, c)
      | .object => return (around :: stack, ← skipName c)
    match c.head? with
    | none => c.fail around.endFault
    | some ch =>
      if ch = around.closing then skipBetween fuel true stack c.bump
      else if !mayContinue then enter c
      else if ch = ',' then enter c.bump
      else c.failAtNext around.commaFault

/-- Passes over values until nothing is left around them. -/
def skipValues : (fuel : Nat) → List Enclosing → Cursor → Reading Cursor
  | 0, _, c => c.fail .endInValue
  | fuel + 1, stack, c => do
    let c := c.skipSpace
    let goOn (mayContinue : Bool) (stack : List Enclosing) (c : Cursor) : Reading Cursor := do
      match ← skipBetween (stack.length + 1) mayContinue stack c with
      | ([], c) => return c
      | (stack, c) => skipValues fuel stack c
    match c.head? with
    | none => c.fail .endInValue
    | some ch =>
      if ch = 'n' then goOn true stack (← readLetters c.bump ['u', 'l', 'l'])
      else if ch = 't' then goOn true stack (← readLetters c.bump ['r', 'u', 'e'])
      else if ch = 'f' then goOn true stack (← readLetters c.bump ['a', 'l', 's', 'e'])
      else if ch = '-' then goOn true stack (← skipNumber c.bump)
      else if ch.isDigit then goOn true stack (← skipNumber c)
      else if ch = '"' then goOn true stack (← skipString c)
      else if ch = '[' then goOn false (.list :: stack) c.bump
      else if ch = '{' then goOn false (.object :: stack) c.bump
      else c.failAtNext .expectedValue

def skipValue (c : Cursor) : Reading Cursor := skipValues (c.rest.length + 1) [] c

end FormatScan.Json
