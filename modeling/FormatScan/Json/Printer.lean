import FormatScan.Json.Value
import FormatScan.Text.Decimal
import FormatScan.Text.Quoted
/-!
Writing JSON, either without any space or with one member a line.
-/

namespace FormatScan.Json

def escapeChar (c : Char) : List Char :=
  if c = '"' then ['\\', '"']
  else if c = '\\' then ['\\', '\\']
  else if c = '\x08' then ['\\', 'b']
  else if c = '\t' then ['\\', 't']
  else if c = '\n' then ['\\', 'n']
  else if c = '\x0C' then ['\\', 'f']
  else if c = '\r' then ['\\', 'r']
  else if c.toNat < 32 then
    ['\\', 'u', '0', '0', (c.toNat / 16).digitChar, (c.toNat % 16).digitChar]
  else [c]

def renderString (s : String) : String :=
  "\"" ++ String.ofList (s.toList.flatMap escapeChar) ++ "\""

mutual

def render : Json → String
  | .null => "null"
  | .bool value => if value then "true" else "false"
  | .nat value => toString value
  | .negative value => toString value
  | .float value => Text.renderFloat value
  | .string s => renderString s
  | .array items => "[" ++ ",".intercalate (renderAll items) ++ "]"
  | .object members => "\x7b" ++ ",".intercalate (renderMembers members) ++ "\x7d"

def renderAll : List Json → List String
  | [] => []
  | item :: rest => item.render :: renderAll rest

def renderMembers : List (String × Json) → List String
  | [] => []
  | (name, value) :: rest => (renderString name ++ ":" ++ value.render) :: renderMembers rest

end

def margin (depth : Nat) : String := String.ofList (List.replicate (2 * depth) ' ')

def block (opening closing : String) (depth : Nat) (items : List String) : String :=
  if items.isEmpty then opening ++ closing
  else
    opening ++ "\n" ++ ",\n".intercalate (items.map fun item => margin (depth + 1) ++ item) ++
      "\n" ++ margin depth ++ closing

mutual

/-- Writes a value whose line begins `depth` steps in. -/
def renderPretty (depth : Nat) : Json → String
  | .array items => block "[" "]" depth (renderPrettyAll (depth + 1) items)
  | .object members => block "\x7b" "\x7d" depth (renderPrettyMembers (depth + 1) members)
  | value => value.render

def renderPrettyAll (depth : Nat) : List Json → List String
  | [] => []
  | item :: rest => item.renderPretty depth :: renderPrettyAll depth rest

def renderPrettyMembers (depth : Nat) : List (String × Json) → List String
  | [] => []
  | (name, value) :: rest =>
    (renderString name ++ ": " ++ value.renderPretty depth) :: renderPrettyMembers depth rest

end

end FormatScan.Json
