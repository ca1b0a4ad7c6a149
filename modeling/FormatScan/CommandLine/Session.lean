import FormatScan.CommandLine.Options
import FormatScan.Log.Filter
import FormatScan.Report
import FormatScan.Run.Files
import FormatScan.Signature.Builtin
/-!
The command as a whole: from its arguments and the files that it finds to what it prints and
writes.
-/

namespace FormatScan.CommandLine

/-- What goes to the error output. -/
inductive Notice where
  | record (record : Log.Record)
  | text (text : String)
deriving DecidableEq

structure Outcome where
  code : Nat
  /-- The lines that are printed. -/
  lines : List String
  notices : List Notice
  /-- The files that were written, in order. -/
  written : List (Path × String)
  tree : FileTree

structure Setting where
  /-- The number of workers if none is given. -/
  processors : Nat
  filter : Log.Filter
  tree : FileTree

structure Session where
  filter : Log.Filter
  lines : List String := []
  notices : List Notice := []
  written : List (Path × String) := []
  tree : FileTree

namespace Session

def log (s : Session) (records : List Log.Record) : Session :=
  { s with notices := s.notices ++ (records.filter s.filter.admits).map .record }

def logEvents (s : Session) (events : List Event) : Session :=
  s.log (events.map Log.Record.ofEvent)

def print (s : Session) (lines : List String) : Session := { s with lines := s.lines ++ lines }

def finish (s : Session) : Outcome := ⟨0, s.lines, s.notices, s.written, s.tree⟩

def fail (s : Session) (report : String) : Outcome :=
  ⟨1, s.lines, s.notices ++ [.text report], s.written, s.tree⟩

end Session

/-- An error with the causes behind it, numbered if there are several. -/
def errorReport (head : String) (causes : List String) : String :=
  let listed :=
    match causes with
    | [cause] => ["    " ++ cause]
    | causes => causes.mapIdx fun i cause => "    " ++ toString i ++ ": " ++ cause
  "Error: " ++ head ++
    (if causes.isEmpty then "" else "\n\nCaused by:\n" ++ "\n".intercalate listed)

def contextReport (context : String) (e : ScanError) : String :=
  errorReport context (e.message :: e.cause?.toList)

def plainReport (e : ScanError) : String := errorReport e.message e.cause?.toList

namespace Options

/-- The greatest number of bytes, as far as it can be told in 64 bits. -/
def maxFileSize (o : Options) : Nat := min (o.maxMebibytes * (1024 * 1024)) (UInt64.size - 1)

def config (o : Options) (processors : Nat) : ScanConfig where
  engine := o.engine
  workers := o.threads.getD processors
  maxFileSize := o.maxFileSize
  anchoring := if o.unanchored then .unanchored else .start

end Options

def startRecord (files : Nat) (engine : EngineKind) (signatures : Nat) : Log.Record where
  level := .info
  target := "devscan"
  message := "starting scan"
  fields := [("files", toString files), ("engine", engine.name),
    ("signatures", toString signatures)]

def Session.write (s : Session) (path : Option Path) (text : String) : Except String Session :=
  match path with
  | none => .ok s
  | some path =>
    match s.tree.write path text with
    | .ok tree => .ok { s with tree, written := s.written ++ [(path, text)] }
    | .error e => .error (contextReport ("Failed to write " ++ path.text) (.file e))

/-- Prints what a run found, and writes the reports that are wanted. -/
def report (o : Options) (s : Session) (stats : Stats) : Outcome :=
  let r := Report.ofStats o.target.text o.engine stats
  let s := s.print
    (r.summaryLines ++ ["Total files processed: " ++ toString r.filesProcessed])
  match s.write o.json (r.renderJson ++ "\n") with
  | .error text => s.fail text
  | .ok s =>
    match s.write o.txt r.renderText with
    | .error text => s.fail text
    | .ok s => s.finish

def scanTarget (o : Options) (s : Session) (scanner : Scanner) : Outcome :=
  if !s.tree.isThere o.target then
    s.fail (errorReport ("Target does not exist: " ++ o.target.text) [])
  else
    let (files, events) := s.tree.discover o.target
    let s := s.logEvents events
    let s := s.log [startRecord files.length o.engine scanner.patterns.length]
    let outcome := scanner.scanPaths s.tree (fun _ => false) files
    let s := s.log outcome.records
    match outcome.result with
    | .error e => s.fail (plainReport e)
    | .ok stats => report o s stats

/-- The signatures that are given, or else the built-in ones. -/
def loadSignatures (o : Options) (tree : FileTree) :
    Except String (List Signature × List Event) :=
  match o.signatures with
  | none => .ok (Signature.builtin, [])
  | some path =>
    (Signature.load tree path).mapError
      (contextReport ("Failed to load signatures from " ++ path.text))

def scan (setting : Setting) (o : Options) : Outcome :=
  let s : Session := { filter := setting.filter, tree := setting.tree }
  match loadSignatures o s.tree with
  | .error text => s.fail text
  | .ok (signatures, events) =>
    let s := s.logEvents events
    let (created, events) := Scanner.create (o.config setting.processors) signatures
    let s := s.logEvents events
    match created with
    | .error e => s.fail (contextReport "Cannot start scan" e)
    | .ok scanner => scanTarget o s scanner

def run (setting : Setting) (arguments : List String) : Outcome :=
  match parse arguments with
  | .error e => ⟨2, [], [.text e.message], [], setting.tree⟩
  | .ok .help => ⟨0, helpLines, [], [], setting.tree⟩
  | .ok .version => ⟨0, [versionLine], [], [], setting.tree⟩
  | .ok (.scan o) => scan setting o

end FormatScan.CommandLine
