import FormatScan.Engine.Kind
import FormatScan.FileTree.Basic
import FormatScan.Json.Printer
import FormatScan.Stats
/-!
Reports on a run. Counts of zero do not show.
-/

namespace FormatScan

structure Report where
  target : String
  engine : EngineKind
  filesProcessed : Nat
  detections : Counts
  embedded : Counts
deriving DecidableEq

namespace Report

def nonZero (counts : Counts) : Counts := counts.filter fun _ n => 0 < n

def ofStats (target : String) (engine : EngineKind) (stats : Stats) : Report where
  target
  engine
  filesProcessed := stats.filesProcessed
  detections := nonZero stats.counts
  embedded := nonZero stats.embedded

def summaryLine (r : Report) (name : String) : String :=
  let embedded := r.embedded.count name
  let found := "found " ++ toString (r.detections.count name + embedded) ++ " " ++ name
  if embedded = 0 then found else found ++ " (" ++ toString embedded ++ " embedded)"

/-- A line for each name; its number includes the embedded ones. -/
def summaryLines (r : Report) : List String :=
  (r.detections.merge r.embedded).names.map r.summaryLine

def countsJson (counts : Counts) : Json :=
  .object (counts.entries.map fun e => (e.1, .nat e.2))

def toJson (r : Report) : Json :=
  .object
    ([("scan_target", .string r.target), ("engine", .string r.engine.name),
      ("total_files_processed", .nat r.filesProcessed),
      ("detections", countsJson r.detections)] ++
    (if r.embedded = ∅ then [] else [("embedded", countsJson r.embedded)]))

def renderJson (r : Report) : String := r.toJson.renderPretty 0

def padName (name : String) : String :=
  name ++ String.ofList (List.replicate (15 - name.length) ' ')

def rule : String := String.ofList (List.replicate 32 '-')

def tableLine (name : String) (value : String) : String := padName name ++ " | " ++ value

def tableLines (heading : String) (counts : Counts) : List String :=
  tableLine "File type" heading :: rule :: counts.entries.map fun e => tableLine e.1 (toString e.2)

def embeddedLines (r : Report) : List String :=
  if r.embedded = ∅ then []
  else
    rule :: tableLine "File type" "Embedded" ::
      r.embedded.entries.map fun e => tableLine e.1 (toString e.2)

def renderText (r : Report) : String :=
  let lines :=
    ["--- SCAN RESULTS ---", "Target: " ++ r.target, "Engine: " ++ r.engine.name, rule] ++
    tableLines "Found" r.detections ++ r.embeddedLines ++
    [rule, "Total files processed: " ++ toString r.filesProcessed]
  String.join (lines.map (· ++ "\n"))

def writeJson (r : Report) (tree : FileTree) (path : Path) : Except FileError FileTree :=
  tree.write path (r.renderJson ++ "\n")

def writeText (r : Report) (tree : FileTree) (path : Path) : Except FileError FileTree :=
  tree.write path r.renderText

end Report

end FormatScan
