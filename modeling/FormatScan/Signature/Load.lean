import FormatScan.Json.Reader
import FormatScan.ScanError
import FormatScan.Signature.Json
import FormatScan.Signature.Sanitize
/-!
Loading signatures from a JSON list. An entry that cannot be decoded costs only itself.
-/

namespace FormatScan.Signature

/-- The signature of an entry of a list, or a warning about the entry. -/
def ofEntry (index : Nat) (entry : Json) : Except Event Signature :=
  match (entry.get? "name").bind Json.string? with
  | none =>
    .error (.runWarning ("signature entry #" ++ toString index ++ " has no name, skipped"))
  | some name =>
    match ofJson entry with
    | .ok s => .ok s
    | .error e => .error (.signatureWarning name ("malformed entry skipped: " ++ e.message))

def ofEntries (entries : List Json) : List (Except Event Signature) :=
  entries.mapIdx ofEntry

def loadEntries (entries : List Json) : List Signature × List Event :=
  let decoded := ofEntries entries
  let warnings := decoded.filterMap fun
    | .error event => some event
    | .ok _ => none
  let (kept, events) := sanitize (decoded.filterMap Except.toOption)
  (kept, warnings ++ events)

/-- Fails only for a text that is no JSON or no list. -/
def parse (text : String) : Except ScanError (List Signature × List Event) :=
  match Json.parse text with
  | .error e => .error (.json e)
  | .ok (.array entries) => .ok (loadEntries entries)
  | .ok _ => .error (.invalidConfig .signaturesNotAList)

end FormatScan.Signature
