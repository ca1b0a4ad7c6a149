import FormatScan.Event
/-!
Log records, and the records that events become.
-/

namespace FormatScan.Log

inductive Level where
  | trace
  | debug
  | info
  | warn
  | error
deriving DecidableEq

namespace Level

def name : Level → String
  | trace => "TRACE"
  | debug => "DEBUG"
  | info => "INFO"
  | warn => "WARN"
  | error => "ERROR"

def verbosity : Level → Nat
  | error => 1
  | warn => 2
  | info => 3
  | debug => 4
  | trace => 5

def ofSeverity : Severity → Level
  | .info => info
  | .warn => warn
  | .error => error

end Level

structure Record where
  level : Level
  /-- The part of the program that the record comes from. -/
  target : String
  message : String
  fields : List (String × String)
deriving DecidableEq

namespace Record

/-- Control characters that a terminal would act on are written as escapes. -/
def escapeControl (c : Char) : String :=
  if c = '\x1b' then "\\x1b"
  else if c = '\x07' then "\\x07"
  else if c = '\x08' then "\\x08"
  else if c = '\x0c' then "\\x0c"
  else if c = '\x7f' then "\\x7f"
  else if 0x80 ≤ c.toNat ∧ c.toNat ≤ 0x9f then
    "\\u\x7b" ++ String.ofList (Nat.toDigits 16 c.toNat) ++ "\x7d"
  else c.toString

def text (record : Record) : String :=
  String.join (record.message.toList.map escapeControl) ++
    String.join (record.fields.map fun field => " " ++ field.1 ++ "=" ++ field.2)

def ofEvent (event : Event) : Record where
  level := .ofSeverity event.severity
  target := "devscan::events"
  message := event.message
  fields :=
    match event.subject with
    | .signature name => [("signature", name)]
    | .path p => [("path", p.text)]
    | .run => []

end Record

end FormatScan.Log
