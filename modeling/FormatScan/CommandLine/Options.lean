import FormatScan.Config.Basic
import FormatScan.Path
import FormatScan.Text.Whole
/-!
The arguments of the command.
-/

namespace FormatScan.CommandLine

inductive Flag where
  | config
  | engine
  | threads
  | maxFileSize
  | unanchored
  | json
  | txt
  | quiet
  | help
  | version
deriving DecidableEq

namespace Flag

def all : List Flag :=
  [config, engine, threads, maxFileSize, unanchored, json, txt, quiet, help, version]

def long : Flag → String
  | config => "config"
  | engine => "engine"
  | threads => "threads"
  | maxFileSize => "max-filesize"
  | unanchored => "unanchored"
  | json => "json"
  | txt => "txt"
  | quiet => "quiet"
  | help => "help"
  | version => "version"

def short? : Flag → Option Char
  | config => some 'c'
  | engine => some 'e'
  | threads => some 'j'
  | maxFileSize => some 'm'
  | quiet => some 'q'
  | help => some 'h'
  | version => some 'V'
  | _ => none

def valueName? : Flag → Option String
  | config => some "SIGNATURES"
  | engine => some "ENGINE"
  | threads => some "THREADS"
  | maxFileSize => some "MAX_FILESIZE_MB"
  | json => some "JSON"
  | txt => some "TXT"
  | _ => none

def ofLong? (name : String) : Option Flag := all.find? (·.long = name)

def ofShort? (c : Char) : Option Flag := all.find? (·.short? = some c)

def shown (flag : Flag) : String :=
  match flag.valueName? with
  | some value => "--" ++ flag.long ++ " <" ++ value ++ ">"
  | none => "--" ++ flag.long

end Flag

inductive UsageError where
  | unexpectedArgument (argument : String)
  | unexpectedFlag (argument : String)
  | unexpectedValue (value shown : String)
  | missingTarget
  | missingValue (shown : String)
  | invalidValue (value shown reason : String)
  | repeated (shown : String)
deriving DecidableEq

def usage : String := "Usage: devscan [OPTIONS] <TARGET>"

def targetName : String := "<TARGET>"

namespace UsageError

def what : UsageError → String
  | unexpectedArgument argument => "unexpected argument '" ++ argument ++ "' found"
  | unexpectedFlag argument =>
    "unexpected argument '" ++ argument ++ "' found\n\n  tip: to pass '" ++ argument ++
      "' as a value, use '-- " ++ argument ++ "'"
  | unexpectedValue value shown =>
    "unexpected value '" ++ value ++ "' for '" ++ shown ++ "' found; no more were expected"
  | missingTarget =>
    "the following required arguments were not provided:\n  " ++ targetName
  | missingValue shown => "a value is required for '" ++ shown ++ "' but none was supplied"
  | invalidValue value shown reason =>
    "invalid value '" ++ value ++ "' for '" ++ shown ++ "': " ++ reason
  | repeated shown => "the argument '" ++ shown ++ "' cannot be used multiple times"

def usage? : UsageError → Option String
  | missingTarget => some "Usage: devscan <TARGET>"
  | missingValue _ => none
  | invalidValue .. => none
  | _ => some usage

def message (e : UsageError) : String :=
  "error: " ++ e.what ++ "\n\n" ++
    (match e.usage? with
      | some usage => usage ++ "\n\n"
      | none => "") ++
    "For more information, try '--help'."

end UsageError

structure Options where
  target : Path
  signatures : Option Path := none
  engine : EngineKind := .twoPhase
  threads : Option Nat := none
  maxMebibytes : Nat := 512
  unanchored : Bool := false
  json : Option Path := none
  txt : Option Path := none
  quiet : Bool := false
deriving DecidableEq

inductive Request where
  | scan (options : Options)
  | help
  | version
deriving DecidableEq

/-- What has been read so far. The target counts only when it has been seen. -/
structure Draft where
  options : Options := { target := ⟨""⟩ }
  hasTarget : Bool := false
  seen : List Flag := []

abbrev Parsed := Except UsageError

namespace Draft

def pathValue (shown value : String) : Parsed Path :=
  if value = "" then .error (.missingValue shown) else .ok ⟨value⟩

def natValue (shown value : String) : Parsed Nat :=
  (Text.whole64 value).mapError fun fault => .invalidValue value shown fault.message

def engineValue (shown value : String) : Parsed EngineKind :=
  (EngineKind.ofName value).mapError fun e => .invalidValue value shown e.message

/-- Takes in a flag and its value, which is empty for a flag that takes none. -/
def set (d : Draft) (flag : Flag) (value : String) : Parsed Draft := do
  let shown := flag.shown
  if d.seen.contains flag then .error (.repeated shown)
  let o := d.options
  let options ←
    match flag with
    | .config => do pure { o with signatures := some (← pathValue shown value) }
    | .engine => do pure { o with engine := ← engineValue shown value }
    | .threads => do pure { o with threads := some (← natValue shown value) }
    | .maxFileSize => do pure { o with maxMebibytes := ← natValue shown value }
    | .unanchored => pure { o with unanchored := true }
    | .json => do pure { o with json := some (← pathValue shown value) }
    | .txt => do pure { o with txt := some (← pathValue shown value) }
    | .quiet => pure { o with quiet := true }
    | .help => pure o
    | .version => pure o
  return { d with options, seen := flag :: d.seen }

def setTarget (d : Draft) (argument : String) : Parsed Draft :=
  if d.hasTarget then .error (.unexpectedArgument argument)
  else do
    let target ← pathValue targetName argument
    return { d with options := { d.options with target }, hasTarget := true }

def finish (d : Draft) : Parsed Request :=
  if d.hasTarget then .ok (.scan d.options) else .error .missingTarget

end Draft

def isFlag (argument : String) : Bool :=
  match argument.toList with
  | '-' :: _ :: _ => true
  | _ => false

/-- What an argument with short flags comes to: a draft, a request that is fulfilled at once, or a
flag whose value is the next argument. -/
inductive Step where
  | goOn (draft : Draft)
  | done (request : Request)
  | wants (flag : Flag)

def readFlag (d : Draft) (flag : Flag) (attached : Option String) : Parsed Step :=
  match flag.valueName?, attached with
  | some _, some value => (d.set flag value).map .goOn
  | some _, none => .ok (.wants flag)
  | none, some value => .error (.unexpectedValue value flag.shown)
  | none, none =>
    match flag with
    | .help => .ok (.done .help)
    | .version => .ok (.done .version)
    | flag => (d.set flag "").map .goOn

def readLong (d : Draft) (argument : String) : Parsed Step :=
  let body := argument.toList.drop 2
  let name := String.ofList (body.takeWhile (· != '='))
  let attached :=
    match body.dropWhile (· != '=') with
    | [] => none
    | _ :: value => some (String.ofList value)
  match Flag.ofLong? name with
  | none => .error (.unexpectedFlag ("--" ++ name))
  | some flag => readFlag d flag attached

/-- Reads short flags behind their dash. What follows a flag that takes a value is the value, with
or without an equals sign. -/
def readShorts (d : Draft) : List Char → Parsed Step
  | [] => .ok (.goOn d)
  | c :: rest =>
    match Flag.ofShort? c with
    | none => .error (.unexpectedFlag (String.ofList ['-', c]))
    | some flag =>
      if flag.valueName?.isSome then
        match rest with
        | [] => .ok (.wants flag)
        | '=' :: value => readFlag d flag (some (String.ofList value))
        | value => readFlag d flag (some (String.ofList value))
      else do
        match ← readFlag d flag none with
        | .goOn d => readShorts d rest
        | step => return step

def readTargets (d : Draft) : List String → Parsed Request
  | [] => d.finish
  | argument :: rest => do readTargets (← d.setTarget argument) rest

def readArguments (d : Draft) : List String → Parsed Request
  | [] => d.finish
  | argument :: rest => do
    if argument = "--" then readTargets d rest
    else if !isFlag argument then readArguments (← d.setTarget argument) rest
    else
      let step ←
        if argument.toList.take 2 = ['-', '-'] then readLong d argument
        else readShorts d (argument.toList.drop 1)
      match step, rest with
      | .done request, _ => return request
      | .goOn d, rest => readArguments d rest
      | .wants flag, [] => .error (.missingValue flag.shown)
      | .wants flag, value :: rest =>
        if isFlag value then .error (.missingValue flag.shown)
        else readArguments (← d.set flag value) rest

def parse (arguments : List String) : Parsed Request := readArguments {} arguments

def helpLines : List String := [
  "Identify file formats by content across a directory tree",
  "",
  usage,
  "",
  "Arguments:",
  "  <TARGET>  File or directory to scan",
  "",
  "Options:",
  "  -c, --config <SIGNATURES>             Signature definitions (JSON); the built-in set is " ++
    "used when omitted",
  "  -e, --engine <ENGINE>                 backtrack | two-phase | vectorscan " ++
    "[default: two-phase]",
  "  -j, --threads <THREADS>               Worker threads (defaults to the number of CPUs)",
  "  -m, --max-filesize <MAX_FILESIZE_MB>  Skip files larger than this many MiB [default: 512]",
  "      --unanchored                      Match binary headers anywhere in a file " ++
    "(raw stream captures)",
  "      --json <JSON>                     Write a JSON report here",
  "      --txt <TXT>                       Write a text report here",
  "  -q, --quiet                           ",
  "  -h, --help                            Print help",
  "  -V, --version                         Print version"]

def versionLine : String := "devscan 0.1.0"

end FormatScan.CommandLine
