import FormatScan.Config.Basic
import FormatScan.Correction
import FormatScan.Run.Partition
import FormatScan.Run.Worker
/-!
A scanner: signatures compiled once, and runs over any number of items. The items are shared out
among workers, whose statistics are added up and corrected.
-/

namespace FormatScan

structure Scanner where
  config : ScanConfig
  signatures : List Signature
  /-- The patterns in scan order. -/
  patterns : List Pattern

structure RunOutcome where
  /-- What preparing an engine wrote to the log, once for each worker. -/
  preparing : List Log.Record
  workers : List WorkerOutcome
  closing : List Event
  result : Except ScanError Stats

namespace RunOutcome

def events (outcome : RunOutcome) : List Event :=
  outcome.workers.flatMap (·.events) ++ outcome.closing

/-- The log of a run whose workers work one after the other. -/
def records (outcome : RunOutcome) : List Log.Record :=
  (outcome.workers.flatMap fun w => outcome.preparing ++ w.events.map Log.Record.ofEvent) ++
    outcome.closing.map Log.Record.ofEvent

def progress (outcome : RunOutcome) : Nat := 
  outcome.workers.foldr (fun w n => w.handled + n) 0

end RunOutcome

/-- The statistics of all workers, or the error of the first one that failed. -/
def firstFailure (results : List (Except ScanError Stats)) : Except ScanError (List Stats) :=
  results.mapM id

namespace Scanner

/-- Checks a configuration and compiles signatures, some of which have to be usable. -/
def create (config : ScanConfig) (signatures : List Signature) :
    Except ScanError Scanner × List Event :=
  match config.validate with
  | .error e => (.error e, [])
  | .ok () =>
    let (patterns, events) := Signature.compileAll config.anchoring signatures
    if patterns.isEmpty then (.error .noUsableSignatures, events)
    else (.ok ⟨config, signatures, patterns⟩, events)

def closingEvent (kind : EngineKind) (total : Stats) (workers : Nat) : Event :=
  ⟨.info, .run, kind.name ++ " engine processed " ++ toString total.filesProcessed ++
    " files with " ++ toString workers ++ " workers"⟩

/-- Goes through the items. `refuses` says which events nobody takes. -/
def run {α : Type} (scanner : Scanner) (visit : Visit α) (refuses : Event → Bool)
    (items : List α) : RunOutcome :=
  let config := scanner.config
  let preparation := ({ kind := config.engine } : Engine).prepare scanner.patterns
  let ranges := partition items.length config.workers
  let workers := ranges.mapIdx fun worker range =>
    Worker.run visit refuses preparation worker range.start (range.slice items)
  match firstFailure (workers.map (·.result)) with
  | .error e => ⟨preparation.records, workers, [], .error e⟩
  | .ok parts =>
    let total := (Stats.mergeAll parts).correct scanner.signatures config.container
    ⟨preparation.records, workers, [closingEvent config.engine total ranges.length], .ok total⟩

end Scanner

def Engine.scanFile (e : Engine) (bytes : ByteArray) (stats : Stats) : Stats :=
  (e.scan bytes stats.beginFile).fileProcessed

def ceilingText (size limit : Nat) : String :=
  toString size ++ " bytes exceeds the " ++ toString limit ++ " byte ceiling, skipped"

/-- An empty buffer counts without being scanned, and one above the limit is skipped. -/
def visitBuffer (limit : Nat) : Visit ByteArray := fun engine index bytes stats =>
  if bytes.size = 0 then (stats.fileProcessed, [])
  else if limit < bytes.size then
    (stats, [.runWarning ("buffer #" ++ toString index ++ ": " ++ ceilingText bytes.size limit)])
  else (engine.scanFile bytes stats, [])

def Scanner.scanBuffers (scanner : Scanner) (refuses : Event → Bool) (buffers : List ByteArray) :
    RunOutcome :=
  scanner.run (visitBuffer scanner.config.maxFileSize) refuses buffers

end FormatScan
