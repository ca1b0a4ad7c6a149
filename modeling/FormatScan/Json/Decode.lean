import FormatScan.Json.Value
import FormatScan.Text.Decimal
import FormatScan.Text.Quoted
/-!
From JSON values to typed ones: texts, whole numbers, lists, names of variants and records.
-/

namespace FormatScan.Json

inductive DecodeError where
  | invalidType (found : Json) (expected : String)
  | invalidValue (found : Json) (expected : String)
  | invalidLength (count : Nat) (expected : String)
  | unknownVariant (name : String) (known : List String)
  | missingField (name : String)
  | duplicateField (name : String)

abbrev Decoded := Except DecodeError

/-- What kind of value was found; scalars are shown as well. -/
def describe : Json → String
  | .null => "null"
  | .bool value => "boolean `" ++ (if value then "true" else "false") ++ "`"
  | .nat value => "integer `" ++ toString value ++ "`"
  | .negative value => "integer `" ++ toString value ++ "`"
  | .float value => "floating point `" ++ Text.renderFloat value ++ "`"
  | .string s => "string " ++ Text.quoted s
  | .array _ => "sequence"
  | .object _ => "map"

namespace DecodeError

def choices (names : List String) : String :=
  let marked := names.map fun name => "`" ++ name ++ "`"
  match marked with
  | [one, other] => one ++ " or " ++ other
  | [one] => one
  | _ => "one of " ++ ", ".intercalate marked

def message : DecodeError → String
  | invalidType found expected =>
    "invalid type: " ++ found.describe ++ ", expected " ++ expected
  | invalidValue found expected =>
    "invalid value: " ++ found.describe ++ ", expected " ++ expected
  | invalidLength count expected =>
    "invalid length " ++ toString count ++ ", expected " ++ expected
  | unknownVariant name known =>
    "unknown variant `" ++ name ++ "`, expected " ++ choices known
  | missingField name => "missing field `" ++ name ++ "`"
  | duplicateField name => "duplicate field `" ++ name ++ "`"

end DecodeError

def decodeString : Json → Decoded String
  | .string s => .ok s
  | other => .error (.invalidType other "a string")

/-- A whole number from `low` up to `high`; `expected` names the range. -/
def decodeInt (low high : Int) (expected : String) (value : Json) : Decoded Int :=
  let bounded (n : Int) : Decoded Int :=
    if low ≤ n ∧ n ≤ high then .ok n else .error (.invalidValue value expected)
  match value with
  | .nat n => bounded n
  | .negative n => bounded n
  | other => .error (.invalidType other expected)

def decodeInt32 : Json → Decoded Int := 
  decodeInt Int32.minValue.toInt Int32.maxValue.toInt "i32"

def decodeNat64 (value : Json) : Decoded Nat :=
  (decodeInt 0 (Int.ofNat (UInt64.size - 1)) "u64" value).map Int.toNat

def decodeSize (value : Json) : Decoded Nat :=
  (decodeInt 0 (Int.ofNat (UInt64.size - 1)) "usize" value).map Int.toNat

def decodeList {α : Type} (decode : Json → Decoded α) : Json → Decoded (List α)
  | .array items => items.mapM decode
  | other => .error (.invalidType other "a sequence")

def decodeOption {α : Type} (decode : Json → Decoded α) : Json → Decoded (Option α)
  | .null => .ok none
  | value => (decode value).map some

def decodeName {α : Type} (known : List (String × α)) (name : String) : Decoded α :=
  match known.find? (·.1 = name) with
  | some entry => .ok entry.2
  | none => .error (.unknownVariant name (known.map (·.1)))

/-- A variant is written as its name, or as the only member of an object, with nothing in it. -/
def decodeVariant {α : Type} (known : List (String × α)) : Json → Decoded α
  | .string name => decodeName known name
  | .object [(name, content)] => do
    let value ← decodeName known name
    match content with
    | .null => return value
    | other => .error (.invalidType other "unit")
  | .object members => .error (.invalidValue (.object members) "map with a single key")
  | other => .error (.invalidType other "string or map")

/-- The fields of a record in their order, the first of them required. -/
structure RecordForm where
  typeName : String
  fields : List String
  requiredCount : Nat

namespace RecordForm

def required (form : RecordForm) : List String := form.fields.take form.requiredCount

def expected (form : RecordForm) : String := "struct " ++ form.typeName

def expectedLength (form : RecordForm) : String :=
  form.expected ++ " with " ++ toString form.fields.length ++ " elements"

def missing? (form : RecordForm) (names : List String) : Option String :=
  form.required.find? fun name => !names.contains name

end RecordForm

/-- A record is an object, whose members are decoded in their order and may be others than the
fields, or a list of the fields in their order. -/
def decodeRecord {α : Type} (form : RecordForm) (set : α → String → Json → Decoded α) (start : α) :
    Json → Decoded α
  | .object members => do
    let known := members.filter fun m => form.fields.contains m.1
    let record ← known.foldlM (fun record m => set record m.1 m.2) start
    match form.missing? (members.map (·.1)) with
    | some name => .error (.missingField name)
    | none => return record
  | .array items => do
    let known := form.fields.zip items
    let record ← known.foldlM (fun record m => set record m.1 m.2) start
    if items.length < form.requiredCount then
      .error (.invalidLength items.length form.expectedLength)
    else if form.fields.length < items.length then
      .error (.invalidLength items.length "fewer elements in array")
    else return record
  | other => .error (.invalidType other form.expected)

end FormatScan.Json
