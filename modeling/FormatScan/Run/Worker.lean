import FormatScan.Engine.Basic
/-!
A worker: it prepares an engine of its own and goes through a part of the items. Whoever takes the
events may refuse one, and then the worker breaks down.
-/

namespace FormatScan

/-- What a worker does about an item, given its index: how the statistics change, and what there is
to tell. -/
abbrev Visit (α : Type) := Engine → Nat → α → Stats → Stats × List Event

structure WorkerOutcome where
  result : Except ScanError Stats
  events : List Event
  /-- The number of items that were gone through to their end. -/
  handled : Nat

namespace Worker

/-- The events in front of the first one that is refused. -/
def accepted (refuses : Event → Bool) (events : List Event) : List Event :=
  events.takeWhile fun event => !refuses event

def visitAll {α : Type} (visit : Visit α) (refuses : Event → Bool) (worker : Nat) (engine : Engine)
    (first : Nat) (stats : Stats) : List α → WorkerOutcome
  | [] => ⟨.ok stats, [], 0⟩
  | item :: rest =>
    let (stats, events) := visit engine first item stats
    if events.any refuses then ⟨.error (.workerPanicked worker), accepted refuses events, 0⟩
    else
      let after := visitAll visit refuses worker engine (first + 1) stats rest
      { after with events := events ++ after.events, handled := after.handled + 1 }

/-- The work of one worker. Only the first worker tells of the patterns that were refused. -/
def run {α : Type} (visit : Visit α) (refuses : Event → Bool) (preparation : Preparation)
    (worker first : Nat) (items : List α) : WorkerOutcome :=
  let engine := preparation.engine
  let told := if worker = 0 then preparation.report.events engine.kind else []
  if told.any refuses then ⟨.error (.workerPanicked worker), accepted refuses told, 0⟩
  else if preparation.report.active = 0 then ⟨.error .noUsableSignatures, told, 0⟩
  else
    let outcome := visitAll visit refuses worker engine first .empty items
    { outcome with events := told ++ outcome.events }

end Worker

end FormatScan
