import FormatScan.Event
import FormatScan.Signature.Basic
import FormatScan.Text.Hex
import FormatScan.Text.Quoted
/-!
Repairing a list of signatures: fields that are no hexadecimal are cleared, and signatures without
a name, with a name that was there before, or with nothing left in them are dropped.
-/

namespace FormatScan

namespace Text.Hex

def DecodeError.message : DecodeError → String
  | oddLength => "Odd number of digits"
  | invalidByte byte index =>
    "Invalid character " ++ quotedChar (Char.ofNat byte.toNat) ++ " at position " ++
      toString index

end Text.Hex

namespace Signature

/-- A hexadecimal field, or nothing in place of one that cannot be decoded. -/
def clearHex (field : String) : String :=
  match Text.Hex.decode field with
  | .ok _ => field
  | .error _ => ""

def hexWarnings (name label field : String) : List Event :=
  match Text.Hex.decode field with
  | .ok _ => []
  | .error e =>
    [.signatureWarning name
      ("invalid " ++ label ++ " " ++ Text.quoted field ++ " cleared: " ++ e.message)]

def clearInvalidHex (s : Signature) : Signature :=
  match s.kind with
  | .binary => { s with head := clearHex s.head, tail := clearHex s.tail }
  | .text => s

def invalidHexWarnings (s : Signature) : List Event :=
  match s.kind with
  | .binary => hexWarnings s.name "hex_head" s.head ++ hexWarnings s.name "hex_tail" s.tail
  | .text => []

/-- What becomes of a signature behind others with the names `before`. -/
def repair (before : List String) (s : Signature) : Option Signature × List Event :=
  if Text.isBlankText s.name then
    (none, [.runWarning "skipping signature without a name"])
  else if before.contains s.name then
    (none, [.signatureWarning s.name "duplicate signature name, keeping the first definition"])
  else if s.clearInvalidHex.isEmpty then
    (none, s.invalidHexWarnings ++
      [.signatureWarning s.name "no usable pattern fields left, signature dropped"])
  else (some s.clearInvalidHex, s.invalidHexWarnings)

def repairAll (before : List String) : List Signature → List (Option Signature × List Event)
  | [] => []
  | s :: rest => s.repair before :: repairAll (s.name :: before) rest

def references (s : Signature) : List String := s.deductFrom.toList ++ s.exclusiveWith

/-- References to names that no signature has are told of and kept. -/
def danglingEvents (signatures : List Signature) : List Event :=
  let names := signatures.map (·.name)
  signatures.flatMap fun s =>
    (s.references.filter fun name => !names.contains name).map fun name =>
      ⟨.info, .signature s.name, "references unknown signature " ++ name⟩

def sanitize (signatures : List Signature) : List Signature × List Event :=
  let repaired := repairAll [] signatures
  let kept := repaired.filterMap (·.1)
  (kept, repaired.flatMap (·.2) ++ danglingEvents kept)

end Signature

end FormatScan
