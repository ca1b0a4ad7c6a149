import FormatScan.Path
/-!
Events: what was skipped or found wanting while signatures are loaded and content is scanned.
-/

namespace FormatScan

inductive Severity where
  | info
  | warn
  | error
deriving DecidableEq

inductive Subject where
  | signature (name : String)
  | path (path : Path)
  | run
deriving DecidableEq

def Subject.render : Subject → String
  | .signature name => "signature " ++ name
  | .path p => p.text
  | .run => "run"

structure Event where
  severity : Severity
  subject : Subject
  message : String
deriving DecidableEq

namespace Event

def render (event : Event) : String := event.subject.render ++ ": " ++ event.message

def signatureWarning (name message : String) : Event := ⟨.warn, .signature name, message⟩

def pathWarning (path : Path) (message : String) : Event := ⟨.warn, .path path, message⟩

def runWarning (message : String) : Event := ⟨.warn, .run, message⟩

def isAboutSignature (name : String) (event : Event) : Bool :=
  event.subject == .signature name

def isAboutPath (path : Path) (event : Event) : Bool :=
  match event.subject with
  | .path p => p.same path
  | _ => false

def countOf (severity : Severity) (events : List Event) : Nat :=
  events.countP fun event => event.severity == severity

end Event

end FormatScan
