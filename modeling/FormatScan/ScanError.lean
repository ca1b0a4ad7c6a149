import FormatScan.Engine.Kind
import FormatScan.FileError
import FormatScan.Json.Reader
import FormatScan.Text.Quoted
/-!
The ways in which loading or a run as a whole can fail.
-/

namespace FormatScan

inductive ConfigFault where
  | signaturesNotAList
  | noWorkers
  | noFileSize
  | unknownEngine (name : String)
deriving DecidableEq

def ConfigFault.message : ConfigFault → String
  | signaturesNotAList => "signature file root must be an array"
  | noWorkers => "worker count must be at least 1"
  | noFileSize => "max file size must be non-zero"
  | unknownEngine name => "unknown engine " ++ Text.quoted name

inductive ScanError where
  | file (error : FileError)
  | json (error : Json.ReadError)
  | noUsableSignatures
  /-- Only an engine with a database raises it, and so none of the build at hand. -/
  | patternCompile (kind : EngineKind) (reason : String)
  | engineUnavailable (kind : EngineKind)
  | invalidConfig (fault : ConfigFault)
  | workerPanicked (index : Nat)
deriving DecidableEq

namespace ScanError

def message : ScanError → String
  | file error => "I/O error: " ++ error.message
  | json error => "Invalid signature file: " ++ error.message
  | noUsableSignatures => "No usable signatures after loading"
  | patternCompile kind reason =>
    kind.name ++ " failed to compile pattern database: " ++ reason
  | engineUnavailable kind => "Engine " ++ kind.name ++ " is not available in this build"
  | invalidConfig fault => "Invalid configuration: " ++ fault.message
  | workerPanicked index => "Worker " ++ toString index ++ " panicked"

def cause? : ScanError → Option String
  | file error => some error.message
  | json error => some error.message
  | _ => none

end ScanError

/-- The engine of a name, in which capital letters of ASCII do not count. -/
def EngineKind.ofName (name : String) : Except ScanError EngineKind :=
  match EngineKind.ofName? name with
  | some kind => .ok kind
  | none => .error (.invalidConfig (.unknownEngine (EngineKind.lower name)))

end FormatScan
