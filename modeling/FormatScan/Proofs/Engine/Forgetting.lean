import FormatScan.Proofs.Engine.Live

/-!
# Preparing forgets the past

In front of everything else, preparing takes all patterns, their memories and the filter from an
engine, so that only the kind of the engine is left of its past. Scans leave nothing behind that a
later scan would answer to.
-/

namespace FormatScan.LiveEngine

variable {kit : SearchKit}

inductive Call where
  | prepare (patterns : List Pattern)
  | scan (bytes : ByteArray) (stats : Stats)

def call (e : LiveEngine kit) : Call → LiveEngine kit
  | .prepare patterns => (e.prepare patterns).engine
  | .scan bytes stats => (e.scan bytes stats).1

def after (e : LiveEngine kit) (calls : List Call) : LiveEngine kit := calls.foldl call e

theorem kind_call (e : LiveEngine kit) (c : Call) : (e.call c).kind = e.kind := by
  rw [← kind_still, ← kind_still e]
  cases c with
  | prepare patterns =>
      have hstill : (e.prepare patterns).engine.still = (e.still.prepare patterns).engine :=
        congrArg Preparation.engine (e.still_prepare patterns)
      rw [call, hstill, Engine.kind_prepare]
  | scan bytes stats => rw [call, still_scan]

theorem kind_after (e : LiveEngine kit) (history : List Call) :
    (e.after history).kind = e.kind := by
  induction history generalizing e with
  | nil => rfl
  | cons c rest ih => exact (ih (e.call c)).trans (e.kind_call c)

/-- Scans leave nothing behind but memories. -/
theorem still_after_scans (e : LiveEngine kit) (scans : List (ByteArray × Stats)) :
    (e.after (scans.map fun scanned => .scan scanned.1 scanned.2)).still = e.still := by
  induction scans generalizing e with
  | nil => rfl
  | cons scanned rest ih => exact (ih _).trans (e.still_scan scanned.1 scanned.2)

def follow (state : LiveEngine kit × Stats) : Engine.Step → LiveEngine kit × Stats
  | .beginFile => (state.1, state.2.beginFile)
  | .scan bytes => state.1.scan bytes state.2

def followAll (e : LiveEngine kit) (stats : Stats) (steps : List Engine.Step) :
    LiveEngine kit × Stats :=
  steps.foldl follow (e, stats)

/-- An engine with memories finds what the one without them finds, file by file. -/
theorem followAll_eq (hkit : kit.IsSound) (e : LiveEngine kit) (stats : Stats)
    (steps : List Engine.Step) :
    (e.followAll stats steps).2 = e.still.followAll stats steps := by
  induction steps generalizing e stats with
  | nil => rfl
  | cons step rest ih =>
      have hstep : (follow (e, stats) step).1.still = e.still ∧
          (follow (e, stats) step).2 = e.still.follow stats step := by
        cases step with
        | beginFile => exact ⟨rfl, rfl⟩
        | scan bytes => exact ⟨e.still_scan bytes stats, scan_eq hkit e bytes stats⟩
      -- the memories may differ behind the step, but the engine is the same without them
      have hrest := ih (follow (e, stats) step).1 (follow (e, stats) step).2
      rw [hstep.1] at hrest
      refine hrest.trans ?_
      rw [hstep.2]
      rfl

theorem still_of_create {kind : EngineKind} {fresh : LiveEngine kit}
    (hcreate : create kit kind = .ok fresh) : fresh.still = { kind } := by
  cases kind <;> cases hcreate <;> rfl

/-- Whatever has been done with an engine, preparing it comes to the same as for a new one: the same
report, the same patterns and the same filter, without anything that was remembered. From then on it
records what an engine without memories does, and scans in between make no difference. -/
theorem prepare_forgets {kind : EngineKind} {fresh : LiveEngine kit}
    (hcreate : create kit kind = .ok fresh) (history : List Call) :
    (∀ patterns,
      (fresh.after history).prepare patterns = fresh.prepare patterns ∧
        (fresh.prepare patterns).still = ({ kind } : Engine).prepare patterns ∧
        (fresh.prepare patterns).engine.activeCount =
          (({ kind } : Engine).prepare patterns).engine.activeCount ∧
        (fresh.prepare patterns).engine.hasFilter? =
          (({ kind } : Engine).prepare patterns).engine.hasFilter?) ∧
      (kit.IsSound →
        (∀ patterns steps stats,
          (((fresh.after history).prepare patterns).engine.followAll stats steps).2 =
            (({ kind } : Engine).prepare patterns).engine.followAll stats steps) ∧
        ∀ (scans : List (ByteArray × Stats)) bytes stats,
          (((fresh.after history).after (scans.map fun scanned =>
            .scan scanned.1 scanned.2)).scan bytes stats).2 =
            ((fresh.after history).scan bytes stats).2) := by
  have hprepare (patterns : List Pattern) :
      (fresh.after history).prepare patterns = fresh.prepare patterns :=
    prepare_eq_of_kind_eq (fresh.kind_after history) patterns
  have hstill (patterns : List Pattern) :
      (fresh.prepare patterns).still = ({ kind } : Engine).prepare patterns := by
    rw [still_prepare, still_of_create hcreate]
  have hengine (patterns : List Pattern) :
      (fresh.prepare patterns).engine.still = (({ kind } : Engine).prepare patterns).engine :=
    congrArg Preparation.engine (hstill patterns)
  refine ⟨fun patterns => ⟨hprepare patterns, hstill patterns, ?active, ?filter⟩,
    fun hkit => ⟨?later, ?between⟩⟩
  case active => rw [← hengine, activeCount_still]
  case filter => rw [← hengine, hasFilter?_still]
  case later =>
    intro patterns steps stats
    rw [hprepare, followAll_eq hkit, hengine]
  case between =>
    intro scans bytes stats
    rw [scan_eq hkit, scan_eq hkit, still_after_scans]

/-- Searches that remember how many files they have gone through. The bounded one gives up on every
other file. -/
def countingKit : SearchKit where
  bounded := ⟨Nat, fun _ => 0, fun expr n h =>
    (if n % 2 = 0 then some (h.isMatch expr) else none, n + 1)⟩
  longest _ := 5
  unbounded := ⟨Nat, fun _ => 0, fun expr n h => (h.isMatch expr, n + 1)⟩
  single := ⟨Nat, fun _ => 0, fun expr n h => (h.isMatch expr, n + 1)⟩
  joint := ⟨Nat, fun _ => 0, fun exprs n h => (matchingPlaces exprs h, n + 1)⟩

theorem eq_of_every_other {n : Nat} {answer found : Bool}
    (hfound : (if n % 2 = 0 then some answer else none) = some found) : found = answer := by
  split at hfound
  · exact (Option.some.inj hfound).symm
  · cases hfound

theorem isSound_countingKit : countingKit.IsSound where
  bounded _ hfound := eq_of_every_other hfound
  unbounded _ := rfl
  single _ := rfl
  joint _ := rfl

def pdfOnly : List Pattern := [⟨"PDF", "^%PDF", false, 0, 0⟩]

def zipOnly : List Pattern := [⟨"ZIP", "^PK", false, 0, 0⟩, ⟨"BAD", "(", true, 0, 0⟩]

def unprepared : LiveEngine countingKit := .twoPhase [] none

def pastCalls : List Call :=
  [.prepare pdfOnly, .scan "%PDF".toUTF8 .empty, .scan "%PDF".toUTF8 .empty, .prepare [],
    .scan "%PDF".toUTF8 .empty]

theorem prepare_forgets_reprepared :
    create countingKit .twoPhase = .ok unprepared ∧ countingKit.IsSound ∧
      ((unprepared.after pastCalls).prepare zipOnly).report.active = 1 ∧
      ((unprepared.after pastCalls).prepare zipOnly).engine.hasFilter? = some true ∧
      (((unprepared.after pastCalls).prepare zipOnly).engine.followAll .empty
        [.scan "%PDF".toUTF8, .beginFile, .scan "PK".toUTF8]).2.counts = .ofList [("ZIP", 1)] := by
  have hcreate : create countingKit .twoPhase = .ok unprepared := rfl
  obtain ⟨hprepare, hscan⟩ := prepare_forgets hcreate pastCalls
  obtain ⟨hlater, -⟩ := hscan isSound_countingKit
  refine ⟨hcreate, isSound_countingKit, ?_, ?_, ?_⟩
  · rw [(hprepare zipOnly).1]
    decide +kernel
  · rw [(hprepare zipOnly).1]
    decide +kernel
  · rw [hlater]
    decide +kernel

end FormatScan.LiveEngine
