import FormatScan.Config.Basic
import FormatScan.Json.Typed
import FormatScan.Signature.Json
/-!
Configurations as JSON.
-/

namespace FormatScan

open Json

namespace ContainerPolicy

def form : RecordForm where
  typeName := "ContainerPolicy"
  fields := ["container", "derived", "embedded", "thresholded", "image_threshold"]
  requiredCount := 5

def setField (p : ContainerPolicy) (field : String) (value : Json) : Decoded ContainerPolicy :=
  match field with
  | "container" => do return { p with container := ← decodeString value }
  | "derived" => do return { p with derived := ← decodeList decodeString value }
  | "embedded" => do return { p with embedded := ← decodeList decodeString value }
  | "thresholded" => do return { p with thresholded := ← decodeList decodeString value }
  | "image_threshold" => do return { p with imageThreshold := ← decodeNat64 value }
  | _ => .ok p

def ofJson (value : Json) : Decoded ContainerPolicy := decodeRecord form setField {} value

def toJson (p : ContainerPolicy) : Json :=
  .object [("container", .string p.container), ("derived", Signature.textsJson p.derived),
    ("embedded", Signature.textsJson p.embedded),
    ("thresholded", Signature.textsJson p.thresholded),
    ("image_threshold", .nat p.imageThreshold)]

def readField (p : ContainerPolicy) (field : String) (c : Cursor) :
    TypedReading (ContainerPolicy × Cursor) :=
  let texts : Cursor → TypedReading (List String × Cursor) := readListAs (readAs decodeString)
  match field with
  | "container" => do
    let (value, c) ← readAs decodeString c
    return ({ p with container := value }, c)
  | "derived" => do
    let (value, c) ← texts c
    return ({ p with derived := value }, c)
  | "embedded" => do
    let (value, c) ← texts c
    return ({ p with embedded := value }, c)
  | "thresholded" => do
    let (value, c) ← texts c
    return ({ p with thresholded := value }, c)
  | "image_threshold" => do
    let (value, c) ← readAs decodeNat64 c
    return ({ p with imageThreshold := value }, c)
  | _ => .ok (p, c)

end ContainerPolicy

def EngineKind.known : List (String × EngineKind) := all.map fun kind => (kind.name, kind)

namespace ScanConfig

def form : RecordForm where
  typeName := "ScanConfig"
  fields := ["engine", "workers", "max_file_size", "anchoring", "container"]
  requiredCount := 5

def readField (s : ScanConfig) (field : String) (c : Cursor) :
    TypedReading (ScanConfig × Cursor) :=
  match field with
  | "engine" => do
    let (value, c) ← readVariant EngineKind.known c
    return ({ s with engine := value }, c)
  | "workers" => do
    let (value, c) ← readAs decodeSize c
    return ({ s with workers := value }, c)
  | "max_file_size" => do
    let (value, c) ← readAs decodeNat64 c
    return ({ s with maxFileSize := value }, c)
  | "anchoring" => do
    let (value, c) ← readVariant Anchoring.known c
    return ({ s with anchoring := value }, c)
  | "container" => do
    let (value, c) ← readRecord ContainerPolicy.form ContainerPolicy.readField {} c
    return ({ s with container := value }, c)
  | _ => .ok (s, c)

/-- Reads a configuration from a text; every field has to be there. -/
def parse (text : String) : Except TextError ScanConfig :=
  parseAs (readRecord form readField { workers := 0 }) text

def toJson (s : ScanConfig) : Json :=
  .object [("engine", .string s.engine.name), ("workers", .nat s.workers),
    ("max_file_size", .nat s.maxFileSize), ("anchoring", .string s.anchoring.name),
    ("container", s.container.toJson)]

end ScanConfig

end FormatScan
