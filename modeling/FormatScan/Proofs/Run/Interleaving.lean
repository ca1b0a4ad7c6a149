import FormatScan.Proofs.Run.Outcome
import Mathlib.Logic.Relation

/-!
# Workers at the same time

The workers of a run take their steps in any order: what they share are the counter of the items
that were gone through and whoever takes the events. A worker on its own would come to some outcome,
and no step of any worker changes what that is. So all schedules end alike, and end as if the
workers had worked one after the other; only the order of the events is open.
-/

namespace FormatScan

variable {α : Type} {visit : Visit α} {refuses : Event → Bool} {preparation : Preparation}

inductive Phase where
  /-- It tells of the patterns that were refused. -/
  | telling (events : List Event)
  /-- It turns to the next item. -/
  | visiting (stats : Stats)
  /-- It tells of an item. -/
  | reporting (stats : Stats) (events : List Event)
  | panicked
  | finished (result : Except ScanError Stats)

structure Task (α : Type) where
  phase : Phase
  /-- The index of the next item. -/
  next : Nat
  items : List α
  told : List Event := []
  handled : Nat := 0

namespace Task

/-- A step of a worker, with the events that it raises and its ticks of the counter. -/
inductive Step (visit : Visit α) (refuses : Event → Bool) (preparation : Preparation) :
    Task α → List Event → Nat → Task α → Prop
  | tell {event events next items told handled} (haccepted : refuses event = false) :
      Step visit refuses preparation ⟨.telling (event :: events), next, items, told, handled⟩
        [event] 0 ⟨.telling events, next, items, told ++ [event], handled⟩
  | tellRefused {event events next items told handled} (hrefused : refuses event = true) :
      Step visit refuses preparation ⟨.telling (event :: events), next, items, told, handled⟩
        [] 0 ⟨.panicked, next, items, told, handled⟩
  | unusable {next items told handled} (hactive : preparation.report.active = 0) :
      Step visit refuses preparation ⟨.telling [], next, items, told, handled⟩
        [] 0 ⟨.finished (.error .noUsableSignatures), next, items, told, handled⟩
  | begin {next items told handled} (hactive : preparation.report.active ≠ 0) :
      Step visit refuses preparation ⟨.telling [], next, items, told, handled⟩
        [] 0 ⟨.visiting .empty, next, items, told, handled⟩
  | visit {stats next item items told handled} :
      Step visit refuses preparation ⟨.visiting stats, next, item :: items, told, handled⟩
        [] 0 ⟨.reporting (visit preparation.engine next item stats).1
          (visit preparation.engine next item stats).2, next + 1, items, told, handled⟩
  | report {stats event events next items told handled} (haccepted : refuses event = false) :
      Step visit refuses preparation
        ⟨.reporting stats (event :: events), next, items, told, handled⟩
        [event] 0 ⟨.reporting stats events, next, items, told ++ [event], handled⟩
  | reportRefused {stats event events next items told handled} (hrefused : refuses event = true) :
      Step visit refuses preparation
        ⟨.reporting stats (event :: events), next, items, told, handled⟩
        [] 0 ⟨.panicked, next, items, told, handled⟩
  | tick {stats next items told handled} :
      Step visit refuses preparation ⟨.reporting stats [], next, items, told, handled⟩
        [] 1 ⟨.visiting stats, next, items, told, handled + 1⟩
  | finish {stats next told handled} :
      Step visit refuses preparation ⟨.visiting stats, next, [], told, handled⟩
        [] 0 ⟨.finished (.ok stats), next, [], told, handled⟩

def IsDone (t : Task α) : Prop :=
  match t.phase with
  | .panicked => True
  | .finished _ => True
  | _ => False

def joined (worker : Nat) (t : Task α) : WorkerOutcome :=
  match t.phase with
  | .finished result => ⟨result, t.told, t.handled⟩
  | _ => ⟨.error (.workerPanicked worker), t.told, t.handled⟩

def behind (refuses : Event → Bool) (worker : Nat) (events : List Event) (after : WorkerOutcome) :
    WorkerOutcome :=
  if events.any refuses then ⟨.error (.workerPanicked worker), Worker.accepted refuses events, 0⟩
  else { after with events := events ++ after.events }

def rest (visit : Visit α) (refuses : Event → Bool) (preparation : Preparation) (worker : Nat)
    (t : Task α) : WorkerOutcome :=
  let goOn (stats : Stats) : WorkerOutcome :=
    Worker.visitAll visit refuses worker preparation.engine t.next stats t.items
  match t.phase with
  | .telling events =>
    behind refuses worker events
      (if preparation.report.active = 0 then ⟨.error .noUsableSignatures, [], 0⟩ else goOn .empty)
  | .visiting stats => goOn stats
  | .reporting stats events =>
    behind refuses worker events { goOn stats with handled := (goOn stats).handled + 1 }
  | .panicked => ⟨.error (.workerPanicked worker), [], 0⟩
  | .finished result => ⟨result, [], 0⟩

def outcome (visit : Visit α) (refuses : Event → Bool) (preparation : Preparation) (worker : Nat)
    (t : Task α) : WorkerOutcome :=
  let after := t.rest visit refuses preparation worker
  ⟨after.result, t.told ++ after.events, t.handled + after.handled⟩

section

variable {worker ticks : Nat} {t t' : Task α} {event : Event} {events : List Event}

theorem behind_of_accepted (haccepted : refuses event = false) (after : WorkerOutcome) :
    behind refuses worker (event :: events) after =
      { behind refuses worker events after with
        events := event :: (behind refuses worker events after).events } := by
  unfold behind Worker.accepted
  rw [List.any_cons, haccepted, Bool.false_or, List.takeWhile_cons_of_pos (by simp [haccepted])]
  split <;> rfl

/-- A refused event is the end of the worker. -/
theorem behind_of_refused (hrefused : refuses event = true) (after : WorkerOutcome) :
    behind refuses worker (event :: events) after = ⟨.error (.workerPanicked worker), [], 0⟩ := by
  unfold behind Worker.accepted
  rw [List.any_cons, hrefused, Bool.true_or, if_pos rfl,
    List.takeWhile_cons_of_neg (by simp [hrefused])]

theorem behind_nil (after : WorkerOutcome) : behind refuses worker [] after = after := rfl

/-- A step leaves what a worker will have come to. -/
theorem outcome_of_step (hstep : Step visit refuses preparation t events ticks t') :
    t'.outcome visit refuses preparation worker = t.outcome visit refuses preparation worker := by
  -- what a step has done is no longer left to do, and stands in `told` or `handled` instead
  cases hstep with
  | tell haccepted => simp [outcome, rest, behind_of_accepted haccepted]
  | tellRefused hrefused => simp [outcome, rest, behind_of_refused hrefused]
  | unusable hactive => simp [outcome, rest, behind_nil, hactive]
  | begin hactive => simp [outcome, rest, behind_nil, hactive]
  | visit =>
      simp only [outcome, rest, behind, Worker.visitAll]
  | report haccepted => simp [outcome, rest, behind_of_accepted haccepted]
  | reportRefused hrefused => simp [outcome, rest, behind_of_refused hrefused]
  | tick =>
      simp only [outcome, rest, behind_nil]
      rw [Nat.add_assoc, Nat.add_comm 1]
  | finish => simp [outcome, rest, Worker.visitAll]

theorem joined_of_isDone (hdone : t.IsDone) :
    t.joined worker = t.outcome visit refuses preparation worker := by
  obtain ⟨phase, next, items, told, handled⟩ := t
  cases phase with
  | panicked => simp [joined, outcome, rest]
  | finished result => simp [joined, outcome, rest]
  | _ => cases hdone

@[simp]
theorem told_joined (worker : Nat) (t : Task α) : (t.joined worker).events = t.told := by
  unfold joined
  split <;> rfl

@[simp]
theorem handled_joined (worker : Nat) (t : Task α) : (t.joined worker).handled = t.handled := by
  unfold joined
  split <;> rfl

theorem outcome_start (worker first : Nat) (items : List α) :
    ({ phase := .telling (Worker.preamble preparation worker), next := first, items } :
        Task α).outcome visit refuses preparation worker =
      Worker.run visit refuses preparation worker first items := by
  rw [Worker.run_eq]
  unfold outcome rest behind
  by_cases hrefused : (Worker.preamble preparation worker).any refuses = true
  · simp [hrefused]
  · by_cases hactive : preparation.report.active = 0
    · simp [hrefused, hactive]
    · simp [hrefused, hactive]

theorem told_of_step (hstep : Step visit refuses preparation t events ticks t') :
    t'.told = t.told ++ events := by
  cases hstep <;> simp

theorem handled_of_step (hstep : Step visit refuses preparation t events ticks t') :
    t'.handled = t.handled + ticks := by
  cases hstep <;> rfl

/-- A worker that is not done can take a step. -/
theorem exists_step (hrunning : ¬t.IsDone) :
    ∃ events ticks t', Step visit refuses preparation t events ticks t' := by
  obtain ⟨phase, next, items, told, handled⟩ := t
  cases phase with
  | telling events =>
      cases events with
      | nil =>
          by_cases hactive : preparation.report.active = 0
          · exact ⟨_, _, _, .unusable hactive⟩
          · exact ⟨_, _, _, .begin hactive⟩
      | cons event events =>
          cases hrefused : refuses event with
          | true => exact ⟨_, _, _, .tellRefused hrefused⟩
          | false => exact ⟨_, _, _, .tell hrefused⟩
  | visiting stats =>
      cases items with
      | nil => exact ⟨_, _, _, .finish⟩
      | cons item items => exact ⟨_, _, _, .visit⟩
  | reporting stats events =>
      cases events with
      | nil => exact ⟨_, _, _, .tick⟩
      | cons event events =>
          cases hrefused : refuses event with
          | true => exact ⟨_, _, _, .reportRefused hrefused⟩
          | false => exact ⟨_, _, _, .report hrefused⟩
  | panicked => exact absurd trivial hrunning
  | finished result => exact absurd trivial hrunning

/-- At most so many steps are left for a worker to take. -/
def fuel (tell : Nat → α → List Event) (t : Task α) : Nat :=
  (match t.phase with
    | .telling events => events.length + 2
    | .visiting _ => 1
    | .reporting _ events => events.length + 2
    | .panicked => 0
    | .finished _ => 0) + (Worker.toldOf tell t.next t.items).length + 2 * t.items.length

/-- No worker goes on for ever. -/
theorem fuel_lt_of_step {tell : Nat → α → List Event} (htells : visit.Tells tell)
    (hstep : Step visit refuses preparation t events ticks t') : t'.fuel tell < t.fuel tell := by
  cases hstep with
  | visit =>
      -- the events of the item are no longer ahead, but they are still to be told
      simp only [fuel, Worker.toldOf_cons, htells preparation.engine, List.length_append,
        List.length_cons]
      omega
  | _ => simp [fuel]

end

end Task

/-! ### All workers -/

structure RunState (α : Type) where
  tasks : List (Task α)
  progress : Nat
  log : List Event

namespace RunState

def reset (s : RunState α) : RunState α := { s with progress := 0 }

inductive Moves (visit : Visit α) (refuses : Event → Bool) (preparation : Preparation) :
    RunState α → RunState α → Prop
  | move {front back : List (Task α)} {t t' : Task α} {events : List Event} {ticks progress : Nat}
      {log : List Event} (hstep : t.Step visit refuses preparation events ticks t') :
      Moves visit refuses preparation ⟨front ++ t :: back, progress, log⟩
        ⟨front ++ t' :: back, progress + ticks, log ++ events⟩

def outcomes (visit : Visit α) (refuses : Event → Bool) (preparation : Preparation)
    (s : RunState α) : List WorkerOutcome :=
  s.tasks.mapIdx fun worker t => t.outcome visit refuses preparation worker

variable {s s' : RunState α}

/-- A step of one worker does not change what all will have come to. -/
theorem outcomes_of_moves (hmoves : Moves visit refuses preparation s s') :
    s'.outcomes visit refuses preparation = s.outcomes visit refuses preparation := by
  obtain ⟨hstep⟩ := hmoves
  simp only [outcomes, List.mapIdx_append, List.mapIdx_cons, Task.outcome_of_step hstep]

/-- The counter and the events are what the workers have done so far. -/
structure IsShared (s : RunState α) : Prop where
  progress : s.progress = (s.tasks.map (·.handled)).sum
  log : s.log.Perm (s.tasks.flatMap (·.told))

/-- The counter and the events keep up with the workers. -/
theorem isShared_of_moves (hmoves : Moves visit refuses preparation s s') (hshared : s.IsShared) :
    s'.IsShared := by
  obtain ⟨hprogress, hlog⟩ := hshared
  obtain ⟨hstep⟩ := hmoves
  constructor
  · simp only [List.map_append, List.map_cons, List.sum_append, List.sum_cons,
      Task.handled_of_step hstep] at hprogress ⊢
    omega
  · simp only [List.flatMap_append, List.flatMap_cons, Task.told_of_step hstep,
      List.append_assoc] at hlog ⊢
    -- new events stand last in the log, but not behind what the later workers have told
    refine (hlog.append_right _).trans ?_
    rw [List.append_assoc, List.append_assoc]
    exact (List.perm_append_comm.append_left _).append_left _

def fuel (tell : Nat → α → List Event) (s : RunState α) : Nat :=
  (s.tasks.map (·.fuel tell)).sum

theorem fuel_lt_of_moves {tell : Nat → α → List Event} (htells : visit.Tells tell)
    (hmoves : Moves visit refuses preparation s s') : s'.fuel tell < s.fuel tell := by
  obtain ⟨hstep⟩ := hmoves
  have hless := Task.fuel_lt_of_step htells hstep
  simp only [fuel, List.map_append, List.map_cons, List.sum_append, List.sum_cons]
  omega

def IsDone (s : RunState α) : Prop := ∀ t ∈ s.tasks, t.IsDone

def joined (s : RunState α) : List WorkerOutcome := s.tasks.mapIdx Task.joined

theorem joined_of_isDone (hdone : s.IsDone) :
    s.joined = s.outcomes visit refuses preparation := by
  unfold joined outcomes
  apply List.ext_getElem (by simp)
  intro worker hleft hright
  rw [List.getElem_mapIdx, List.getElem_mapIdx]
  exact Task.joined_of_isDone (hdone _ (List.getElem_mem _))

theorem map_handled_joined (s : RunState α) :
    s.joined.map (·.handled) = s.tasks.map (·.handled) := by
  unfold joined
  exact List.ext_getElem (by simp) (by simp)

theorem map_events_joined (s : RunState α) :
    s.joined.map (·.events) = s.tasks.map (·.told) := by
  unfold joined
  exact List.ext_getElem (by simp) (by simp)

theorem exists_moves (hrunning : ¬s.IsDone) : ∃ s', Moves visit refuses preparation s s' := by
  obtain ⟨t, hrunning⟩ := not_forall.1 hrunning
  obtain ⟨ht, hstuck⟩ := Classical.not_imp.1 hrunning
  obtain ⟨tasks, progress, log⟩ := s
  obtain ⟨front, back, rfl⟩ := List.append_of_mem ht
  obtain ⟨events, ticks, t', hstep⟩ := Task.exists_step hstuck
  exact ⟨_, .move hstep⟩

/-! ### From the first step to the last -/

def Reaches (visit : Visit α) (refuses : Event → Bool) (preparation : Preparation) :
    RunState α → RunState α → Prop :=
  Relation.ReflTransGen (Moves visit refuses preparation)

theorem outcomes_of_reaches (hreaches : Reaches visit refuses preparation s s') :
    s'.outcomes visit refuses preparation = s.outcomes visit refuses preparation := by
  induction hreaches with
  | refl => rfl
  | tail _ hmoves ih => rw [outcomes_of_moves hmoves, ih]

theorem isShared_of_reaches (hreaches : Reaches visit refuses preparation s s')
    (hshared : s.IsShared) : s'.IsShared := by
  induction hreaches with
  | refl => exact hshared
  | tail _ hmoves ih => exact isShared_of_moves hmoves ih

/-- No schedule goes on for ever. -/
theorem wellFounded_moves {tell : Nat → α → List Event} (htells : visit.Tells tell) :
    WellFounded fun s' s : RunState α => Moves visit refuses preparation s s' :=
  Subrelation.wf (fuel_lt_of_moves htells) (measure (fuel tell)).wf

/-- A run comes to its end whichever worker goes next. -/
theorem exists_reaches_isDone {tell : Nat → α → List Event} (htells : visit.Tells tell)
    (s : RunState α) : ∃ s', Reaches visit refuses preparation s s' ∧ s'.IsDone := by
  have hwf : WellFounded fun s' s : RunState α => Moves visit refuses preparation s s' :=
    wellFounded_moves htells
  induction s using hwf.induction with
  | _ s ih =>
      by_cases hdone : s.IsDone
      · exact ⟨s, .refl, hdone⟩
      · have hmoves : ∃ s', Moves visit refuses preparation s s' := exists_moves hdone
        obtain ⟨s', hmoves⟩ := hmoves
        obtain ⟨last, hreaches, hlast⟩ := ih s' hmoves
        exact ⟨last, .head hmoves hreaches, hlast⟩

end RunState

/-! ### Runs -/

structure Ending where
  workers : List WorkerOutcome
  log : List Event
  progress : Nat
  result : Except ScanError Stats

namespace Scanner

variable {scanner : Scanner} {items : List α} {counter : Nat} {last : Ending}

/-- The workers before their first steps. The counter may be left over from another run, and begins
anew. -/
def start (scanner : Scanner) (counter : Nat) (items : List α) : RunState α :=
  let tasks := (partition items.length scanner.config.workers).mapIdx fun worker range =>
    { phase := .telling (Worker.preamble scanner.preparation worker)
      next := range.start, items := range.slice items : Task α }
  RunState.reset ⟨tasks, counter, []⟩

/-- Joins the workers in their order, and adds up what they have found if none has failed. -/
def conclude (scanner : Scanner) (items : List α) (s : RunState α) : Ending :=
  match firstFailure (s.joined.map (·.result)) with
  | .error e => ⟨s.joined, s.log, s.progress, .error e⟩
  | .ok parts =>
    let final := scanner.total parts
    ⟨s.joined, s.log ++ [closingEvent scanner.config.engine final
      (partition items.length scanner.config.workers).length], s.progress, .ok final⟩

/-- A run whose workers take their steps in some order. -/
def Executes (scanner : Scanner) (visit : Visit α) (refuses : Event → Bool) (counter : Nat)
    (items : List α) (last : Ending) : Prop :=
  ∃ s, RunState.Reaches visit refuses scanner.preparation (scanner.start counter items) s ∧
    s.IsDone ∧ last = scanner.conclude items s

theorem exists_executes {tell : Nat → α → List Event} (htells : visit.Tells tell)
    (scanner : Scanner) (counter : Nat) (items : List α) :
    ∃ last, scanner.Executes visit refuses counter items last := by
  obtain ⟨s, hreaches, hdone⟩ := RunState.exists_reaches_isDone htells
    (scanner.start counter items)
  exact ⟨_, s, hreaches, hdone, rfl⟩

theorem outcomes_start :
    (scanner.start counter items).outcomes visit refuses scanner.preparation =
      scanner.outcomes visit refuses items := by
  apply List.ext_getElem (by simp [RunState.outcomes, start, RunState.reset, outcomes])
  intro worker hleft hright
  simp only [RunState.outcomes, start, RunState.reset, outcomes, List.getElem_mapIdx]
  exact Task.outcome_start _ _ _

theorem isShared_start : (scanner.start counter items).IsShared := by
  constructor
  · symm
    apply List.sum_eq_zero
    intro handled hmem
    obtain ⟨t, ht, rfl⟩ := List.mem_map.1 hmem
    obtain ⟨worker, hworker, rfl⟩ := List.mem_mapIdx.1 ht
    rfl
  · have hnothing : (scanner.start counter items).tasks.flatMap (·.told) = [] := by
      rw [List.flatMap_eq_nil_iff]
      intro t ht
      obtain ⟨worker, hworker, rfl⟩ := List.mem_mapIdx.1 ht
      rfl
    rw [hnothing]
    exact .nil

/-- Whatever the order of the steps, a run ends like one whose workers work one after the other. -/
theorem executes_agrees (hexecutes : scanner.Executes visit refuses counter items last) :
    last.workers = (scanner.run visit refuses items).workers ∧
      last.result = (scanner.run visit refuses items).result ∧
      last.progress = (scanner.run visit refuses items).progress ∧
      last.log.Perm (scanner.run visit refuses items).events := by
  obtain ⟨s, hreaches, hdone, rfl⟩ := hexecutes
  have hworkers : s.joined = (scanner.run visit refuses items).workers := by
    rw [RunState.joined_of_isDone hdone, RunState.outcomes_of_reaches hreaches, outcomes_start,
      run_workers]
  obtain ⟨hprogress, hlog⟩ := RunState.isShared_of_reaches hreaches isShared_start
  rw [← s.map_handled_joined, hworkers, ← progress_eq_sum] at hprogress
  rw [List.flatMap_def, ← s.map_events_joined, hworkers, ← List.flatMap_def] at hlog
  have hconclude : scanner.conclude items s = ⟨(scanner.run visit refuses items).workers,
      s.log ++ (scanner.run visit refuses items).closing, s.progress,
      (scanner.run visit refuses items).result⟩ := by
    unfold conclude
    rw [hworkers, run_closing, run_workers, map_result_outcomes, run_result_eq]
    cases firstFailure (scanner.results visit refuses items) with
    | error e => simp [Except.map]
    | ok parts => simp [Except.map]
  rw [hconclude]
  exact ⟨rfl, rfl, hprogress, hlog.append_right _⟩

end Scanner

end FormatScan
