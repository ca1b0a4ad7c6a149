import FormatScan.Json.Decode
import FormatScan.Json.Skip
/-!
Reading values of known types from a text. A value of the wrong type is an error at the place where
reading has come to, so that of several errors in a text the first one counts.
-/

namespace FormatScan.Json

inductive TextError where
  | read (error : ReadError)
  | decode (error : DecodeError) (place : Place)

def TextError.message : TextError → String
  | read error => error.message
  | decode error place => error.message ++ place.suffix

abbrev TypedReading := Except TextError

def typed {α : Type} (r : Reading α) : TypedReading α :=
  match r with
  | .ok value => .ok value
  | .error e => .error (.read e)

def failDecode {α : Type} (c : Cursor) (e : DecodeError) : TypedReading α :=
  .error (.decode e c.place)

/-- Reads a scalar. Of a list or an object only the kind is told, and the cursor stays in front of
it. -/
def readScalar (c : Cursor) : Reading (Json × Cursor) :=
  let c := c.skipSpace
  match c.head? with
  | some '[' => .ok (.array [], c)
  | some '{' => .ok (.object [], c)
  | _ => readValue 1 1 c

def readAs {α : Type} (decode : Json → Decoded α) (c : Cursor) : TypedReading (α × Cursor) := do
  let (value, c) ← typed (readScalar c)
  match decode value with
  | .ok a => return (a, c)
  | .error e => failDecode c e

def readOther {α : Type} (expected : String) (c : Cursor) : TypedReading (α × Cursor) :=
  readAs (fun found => .error (.invalidType found expected)) c

def readNull (c : Cursor) : TypedReading (Unit × Cursor) :=
  readAs (fun found => match found with
    | .null => .ok ()
    | other => .error (.invalidType other "unit")) c

def readVariant {α : Type} (known : List (String × α)) (c : Cursor) :
    TypedReading (α × Cursor) := do
  let c := c.skipSpace
  let name (c : Cursor) : TypedReading (α × Cursor) :=
    readAs (fun found => match found with
      | .string s => decodeName known s
      | other => .error (.invalidType other "variant identifier")) c
  match c.head? with
  | none => typed (c.fail .endInValue)
  | some '"' => name c
  | some '{' =>
    let (value, c) ← name c.bump
    let c ← typed (readColon c)
    let (_, c) ← readNull c
    let c := c.skipSpace
    match c.head? with
    | none => typed (c.fail .endInObject)
    | some '}' => return (value, c.bump)
    | some _ => typed (c.fail .expectedValue)
  | some _ => typed (c.failAtNext .expectedValue)

def readItemsAs {α : Type} (read : Cursor → TypedReading (α × Cursor)) :
    (fuel : Nat) → Bool → Cursor → TypedReading (List α × Cursor)
  | 0, _, c => typed (c.fail .endInList)
  | fuel + 1, isFirst, c => do
    match ← typed (nextItem? isFirst c) with
    | none => return ([], c.skipSpace.bump)
    | some c =>
      let (item, c) ← read c
      let (items, c) ← readItemsAs read fuel false c
      return (item :: items, c)

def readListAs {α : Type} (read : Cursor → TypedReading (α × Cursor)) (c : Cursor) :
    TypedReading (List α × Cursor) :=
  let c := c.skipSpace
  if c.head? = some '[' then readItemsAs read (c.rest.length + 1) true c.bump
  else readOther "a sequence" c

abbrev FieldReader (α : Type) := α → String → Cursor → TypedReading (α × Cursor)

def skipClosingBrace (c : Cursor) : Cursor :=
  let c := c.skipSpace
  if c.head? = some '}' then c.bump else c

def readFields {α : Type} (form : RecordForm) (read : FieldReader α) :
    (fuel : Nat) → (seen : List String) → α → Cursor → TypedReading (α × Cursor)
  | 0, _, _, c => typed (c.fail .endInObject)
  | fuel + 1, seen, record, c => do
    match ← typed (nextName? seen.isEmpty c) with
    | none =>
      let c := c.skipSpace.bump
      match form.missing? seen with
      | some name => failDecode c (.missingField name)
      | none => return (record, c)
    | some c =>
      let (name, c) ← typed (readString c)
      if form.fields.contains name then
        if seen.contains name then failDecode (skipClosingBrace c) (.duplicateField name)
        else
          let c ← typed (readColon c)
          let (record, c) ← read record name c
          readFields form read fuel (name :: seen) record c
      else
        let c ← typed (readColon c)
        let c ← typed (skipValue c)
        readFields form read fuel (name :: seen) record c

/-- The end of a list that holds no more than was read. -/
def readListEnd (c : Cursor) : Reading Cursor :=
  let c := c.skipSpace
  match c.head? with
  | none => c.fail .endInList
  | some ']' => .ok c.bump
  | some ',' =>
    let c := c.bump.skipSpace
    if c.head? = some ']' then c.failAtNext .trailingComma else c.failAtNext .trailingCharacters
  | some _ => c.failAtNext .trailingCharacters

/-- Reads the fields of a record from a list, all of which have to be there. -/
def readFieldList {α : Type} (form : RecordForm) (read : FieldReader α) (count : Nat) (record : α) :
    List String → Cursor → TypedReading (α × Cursor)
  | [], c => do return (record, ← typed (readListEnd c))
  | name :: names, c => do
    match ← typed (nextItem? (count == 0) c) with
    | none => failDecode c.skipSpace.bump (.invalidLength count form.expectedLength)
    | some c =>
      let (record, c) ← read record name c
      readFieldList form read (count + 1) record names c

def readRecord {α : Type} (form : RecordForm) (read : FieldReader α) (start : α) (c : Cursor) :
    TypedReading (α × Cursor) :=
  let c := c.skipSpace
  match c.head? with
  | some '{' => readFields form read (c.rest.length + 1) [] start c.bump
  | some '[' => readFieldList form read 0 start form.fields c.bump
  | _ => readOther form.expected c

def parseAs {α : Type} (read : Cursor → TypedReading (α × Cursor)) (text : String) :
    TypedReading α := do
  let (value, c) ← read (.ofString text)
  typed (expectEnd c)
  return value

end FormatScan.Json
