import FormatScan.Log.Record
import FormatScan.Pattern
import FormatScan.Regex.AutomatonSize
import FormatScan.Regex.Ends
import FormatScan.Regex.Meaning
import FormatScan.ScanError
import FormatScan.Stats
/-!
Engines: patterns made ready for scanning, and scanning itself. Both kinds of engines match in the
same way. They differ in the patterns that they refuse and in how they go about a file: one tries
every pattern on its own, the other may have a filter, which matches all patterns and leaves the
matches to be verified one by one.
-/

namespace FormatScan

open Regex

structure Exclusion where
  name : String
  reason : String
deriving DecidableEq

structure PrepareReport where
  active : Nat
  excluded : List Exclusion
deriving DecidableEq

/-- One warning for each pattern that was refused. -/
def PrepareReport.events (report : PrepareReport) (kind : EngineKind) : List Event :=
  report.excluded.map fun e =>
    .signatureWarning e.name ("excluded from " ++ kind.name ++ ": " ++ e.reason)

structure Matcher where
  pattern : Pattern
  expr : Expr

structure Engine where
  kind : EngineKind
  matchers : List Matcher := []
  /-- What the filter asks of a file, for each matcher. -/
  filter : Option (List Expr) := none

structure Preparation where
  engine : Engine
  report : PrepareReport
  /-- Why there is no filter, if one was wanted. -/
  filterFault : Option String := none

def sizeFault : String :=
  "Compiled regex exceeds size limit of " ++ toString sizeLimit ++ " bytes."

namespace Matcher

/-- Makes a pattern ready. The two-phase engine tells more about a fault, and limits the size. -/
def ofPattern (kind : EngineKind) (p : Pattern) : Except Exclusion Matcher :=
  match Expr.ofPattern (.start p.caseless) p.expression with
  | .error e =>
    match kind with
    | .twoPhase => .error ⟨p.name, e.report p.expression⟩
    | _ => .error ⟨p.name, "error parsing regex"⟩
  | .ok expr =>
    if kind = .twoPhase ∧ !fitsAlone expr then .error ⟨p.name, sizeFault⟩ else .ok ⟨p, expr⟩

/-- The text of a pattern as a member of the filter, where case is up to each member. -/
def memberText (p : Pattern) : String :=
  if p.caseless then "(?i:" ++ p.expression ++ ")" else p.expression

def filterMember (m : Matcher) : Except String Expr :=
  let text := memberText m.pattern
  match Expr.ofPattern (.start false) text with
  | .ok expr => .ok expr
  | .error e => .error (e.report text)

/-- What a filter over all matchers asks of a file, or why there can be none. -/
def filterOf (matchers : List Matcher) : Except String (List Expr) := do
  let members ← matchers.mapM filterMember
  if fitTogether members then return members else .error sizeFault

def matchesFile (m : Matcher) (h : Haystack) : Bool :=
  m.pattern.appliesTo h.size && h.isMatch m.expr

end Matcher

namespace Engine

def create (kind : EngineKind) : Except ScanError Engine :=
  if kind.isAvailable then .ok { kind } else .error (.engineUnavailable kind)

def activeCount (e : Engine) : Nat := e.matchers.length

/-- Whether there is a filter, for the kind of engine that may have one. -/
def hasFilter? (e : Engine) : Option Bool :=
  match e.kind with
  | .twoPhase => some e.filter.isSome
  | _ => none

def prepare (e : Engine) (patterns : List Pattern) : Preparation :=
  let made := patterns.map (Matcher.ofPattern e.kind)
  let matchers := made.filterMap Except.toOption
  let excluded := made.filterMap fun
    | .error exclusion => some exclusion
    | .ok _ => none
  let report : PrepareReport := ⟨matchers.length, excluded⟩
  if e.kind = .twoPhase ∧ !matchers.isEmpty then
    match Matcher.filterOf matchers with
    | .ok members => { engine := ⟨e.kind, matchers, some members⟩, report }
    | .error fault => { engine := ⟨e.kind, matchers, none⟩, report, filterFault := some fault }
  else { engine := ⟨e.kind, matchers, none⟩, report }

/-- The matchers that the filter leaves for a file. -/
def candidates (e : Engine) (h : Haystack) : List Matcher :=
  match e.filter with
  | none => e.matchers
  | some members => ((e.matchers.zip members).filter fun m => h.isMatch m.2).map (·.1)

/-- Tries a matcher on its own, unless the file is too short or has been counted for the name. -/
def tryMatcher (h : Haystack) (stats : Stats) (m : Matcher) : Stats :=
  if !m.pattern.appliesTo h.size || stats.detected.contains m.pattern.name then stats
  else if h.isMatch m.expr then stats.recorded m.pattern.name
  else stats

def verifyMatcher (h : Haystack) (stats : Stats) (m : Matcher) : Stats :=
  if m.matchesFile h then stats.recorded m.pattern.name else stats

/-- Counts each name whose pattern a file satisfies, once. No pattern is tried on an empty
file. -/
def scan (e : Engine) (bytes : ByteArray) (stats : Stats) : Stats :=
  if bytes.size = 0 then stats
  else
    let h := Haystack.ofBytes bytes
    match e.kind with
    | .twoPhase => (e.candidates h).foldl (verifyMatcher h) stats
    | _ => e.matchers.foldl (tryMatcher h) stats

/-- Scans as `scan` does, with counts that have to be kept. -/
def scan? (e : Engine) (bytes : ByteArray) (stats : Stats) : Option Stats :=
  if bytes.size = 0 then some stats
  else
    let h := Haystack.ofBytes bytes
    match e.kind with
    | .twoPhase => (e.candidates h).foldlM (fun stats m => (verifyMatcher h stats m).fit?) stats
    | _ => e.matchers.foldlM (fun stats m => (tryMatcher h stats m).fit?) stats

end Engine

namespace Preparation

def records (p : Preparation) : List Log.Record :=
  match p.filterFault with
  | none => []
  | some fault =>
    [{ level := .debug, target := "devscan::engine::two_phase",
       message := "combined set unavailable, verifying every pattern",
       fields := [("error", fault)] }]

end Preparation

def Engine.build (kind : EngineKind) (patterns : List Pattern) : Except ScanError Preparation := do
  let e ← Engine.create kind
  return e.prepare patterns

end FormatScan
