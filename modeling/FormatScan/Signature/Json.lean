import FormatScan.Json.Decode
import FormatScan.Signature.Basic
/-!
Signatures as JSON objects.
-/

namespace FormatScan

def SignatureKind.known : List (String × SignatureKind) :=
  [("binary", .binary), ("text", .text)]

namespace Signature

def form : Json.RecordForm where
  typeName := "SignatureDefinition"
  fields := ["name", "type", "hex_head", "hex_tail", "pattern", "extensions", "deduct_from",
    "priority", "min_file_size", "exclusive_with"]
  requiredCount := 1

open Json in
def setField (s : Signature) (field : String) (value : Json) : Decoded Signature :=
  match field with
  | "name" => do return { s with name := ← decodeString value }
  | "type" => do return { s with kind := ← decodeVariant SignatureKind.known value }
  | "hex_head" => do return { s with head := ← decodeString value }
  | "hex_tail" => do return { s with tail := ← decodeString value }
  | "pattern" => do return { s with pattern := ← decodeString value }
  | "extensions" => do return { s with extensions := ← decodeList decodeString value }
  | "deduct_from" => do return { s with deductFrom := ← decodeOption decodeString value }
  | "priority" => do return { s with priority := .ofInt (← decodeInt32 value) }
  | "min_file_size" => do return { s with minFileSize := .ofNat (← decodeNat64 value) }
  | "exclusive_with" => do return { s with exclusiveWith := ← decodeList decodeString value }
  | _ => .ok s

def ofJson (value : Json) : Json.Decoded Signature :=
  Json.decodeRecord form setField { name := "" } value

def intJson (n : Int) : Json := if n < 0 then .negative n else .nat n.toNat

def textsJson (texts : List String) : Json := .array (texts.map .string)

def toJson (s : Signature) : Json :=
  let parent : List (String × Json) :=
    match s.deductFrom with
    | some parent => [("deduct_from", .string parent)]
    | none => []
  .object
    ([("name", .string s.name), ("type", .string s.kind.name), ("hex_head", .string s.head),
      ("hex_tail", .string s.tail), ("pattern", .string s.pattern),
      ("extensions", textsJson s.extensions)] ++ parent ++
    [("priority", intJson s.priority.toInt), ("min_file_size", .nat s.minFileSize.toNat),
      ("exclusive_with", textsJson s.exclusiveWith)])

end Signature

end FormatScan
