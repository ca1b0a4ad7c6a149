import FormatScan.Proofs.Run.Totals
import FormatScan.Proofs.Run.Work

/-!
# What becomes of a run

A run fails with the error of the first worker that fails, and otherwise every worker goes through
all of its items. So the result, the events and the progress of a run are told from its items and
from the engine alone: where the list is cut leaves no trace but in the number of the worker that
broke down.
-/

namespace FormatScan

variable {α : Type} {visit : Visit α} {told : Nat → α → List Event} {refuses : Event → Bool}

/-! ### The parts of all workers -/

theorem IndexRange.zipIdx_slice (range : IndexRange) (items : List α) :
    (range.slice items).zipIdx range.start = range.slice items.zipIdx := by
  apply List.ext_getElem?
  intro i
  unfold slice
  rw [List.getElem?_zipIdx, List.getElem?_take, List.getElem?_take]
  split
  · rw [List.getElem?_drop, List.getElem?_drop, List.getElem?_zipIdx, Nat.zero_add]
  · rfl

/-- The workers together tell of all items, in their order and with their indices. -/
theorem flatMap_toldOf_partition (told : Nat → α → List Event) (items : List α) (workers : Nat) :
    ((partition items.length workers).flatMap fun range =>
      Worker.toldOf told range.start (range.slice items)) = Worker.toldOf told 0 items := by
  have hslices :
      (partition items.length workers).flatMap (·.slice items.zipIdx) = items.zipIdx := by
    have hcover := flatMap_slice_partition items.zipIdx workers
    rwa [List.length_zipIdx] at hcover
  unfold Worker.toldOf
  simp only [IndexRange.zipIdx_slice]
  rw [← List.flatMap_assoc, hslices]

/-- Every item is handled by one worker. -/
theorem sum_length_slice_partition (items : List α) (workers : Nat) :
    ((partition items.length workers).map fun range => (range.slice items).length).sum =
      items.length := by
  rw [← List.length_flatMap, flatMap_slice_partition]

/-! ### The first failure -/

def failure? : Except ScanError Stats → Option ScanError
  | .error e => some e
  | .ok _ => none

theorem firstFailure_of_findSome? {results : List (Except ScanError Stats)} {e : ScanError}
    (hfirst : results.findSome? failure? = some e) : firstFailure results = .error e := by
  induction results with
  | nil => cases hfirst
  | cons result rest ih =>
      cases result with
      | error e' =>
          rw [firstFailure_error_cons]
          exact congrArg _ (Option.some.inj hfirst)
      | ok part =>
          have hrest : rest.findSome? failure? = some e := hfirst
          rw [firstFailure_ok_cons, ih hrest]
          rfl

theorem exists_firstFailure_of_findSome? {results : List (Except ScanError Stats)}
    (hnone : results.findSome? failure? = none) : ∃ parts, firstFailure results = .ok parts := by
  apply exists_firstFailure_eq_ok
  intro result hmem
  cases result with
  | error e => cases List.findSome?_eq_none_iff.1 hnone _ hmem
  | ok part => exact ⟨part, rfl⟩

theorem Worker.failure?_run (htells : visit.Tells told) {preparation : Preparation}
    (worker first : Nat) (items : List α) :
    failure? (run visit refuses preparation worker first items).result =
      error? told refuses preparation worker first items := by
  cases herror : error? told refuses preparation worker first items with
  | some e => rw [result_run_of_error? htells herror]; rfl
  | none =>
      obtain ⟨total, htotal⟩ := run_of_error?_none htells herror
      rw [htotal]
      rfl

namespace Scanner

variable {scanner : Scanner} {items : List α} {final : Stats}

def outcomes (scanner : Scanner) (visit : Visit α) (refuses : Event → Bool) (items : List α) :
    List WorkerOutcome :=
  (partition items.length scanner.config.workers).mapIdx fun worker range =>
    Worker.run visit refuses scanner.preparation worker range.start (range.slice items)

def errors (scanner : Scanner) (told : Nat → α → List Event) (refuses : Event → Bool)
    (items : List α) : List (Option ScanError) :=
  (partition items.length scanner.config.workers).mapIdx fun worker range =>
    Worker.error? told refuses scanner.preparation worker range.start (range.slice items)

def refusals (scanner : Scanner) : List Event :=
  scanner.preparation.report.events scanner.preparation.engine.kind

theorem run_workers : (scanner.run visit refuses items).workers =
    scanner.outcomes visit refuses items := by
  unfold run
  simp only
  split <;> rfl

theorem map_result_outcomes : (scanner.outcomes visit refuses items).map (·.result) =
    scanner.results visit refuses items :=
  List.ext_getElem (by simp [outcomes, results]) (by simp [outcomes, results])

theorem run_eq (scanner : Scanner) (visit : Visit α) (refuses : Event → Bool) (items : List α) :
    scanner.run visit refuses items =
      match firstFailure (scanner.results visit refuses items) with
      | .error e =>
        ⟨scanner.preparation.records, scanner.outcomes visit refuses items, [], .error e⟩
      | .ok parts =>
        ⟨scanner.preparation.records, scanner.outcomes visit refuses items,
          [closingEvent scanner.config.engine (scanner.total parts)
            (partition items.length scanner.config.workers).length],
          .ok (scanner.total parts)⟩ := by
  rw [← map_result_outcomes]
  rfl

theorem map_failure?_results (htells : visit.Tells told) :
    (scanner.results visit refuses items).map failure? = scanner.errors told refuses items := by
  unfold results errors
  rw [List.mapIdx_eq_zipIdx_map, List.mapIdx_eq_zipIdx_map, List.map_map]
  apply List.map_congr_left
  intro range _
  exact Worker.failure?_run htells range.2 range.1.start (range.1.slice items)

theorem progress_eq_sum (outcome : RunOutcome) :
    outcome.progress = (outcome.workers.map (·.handled)).sum := by
  unfold RunOutcome.progress
  induction outcome.workers with
  | nil => rfl
  | cons w rest ih => rw [List.foldr_cons, ih, List.map_cons, List.sum_cons]

/-- What a run fails with, if it does. -/
def error? (scanner : Scanner) (told : Nat → α → List Event) (refuses : Event → Bool)
    (items : List α) : Option ScanError :=
  (scanner.errors told refuses items).findSome? id

theorem findSome?_results (htells : visit.Tells told) :
    (scanner.results visit refuses items).findSome? failure? =
      scanner.error? told refuses items := by
  unfold error?
  rw [← map_failure?_results htells, List.findSome?_map]
  rfl

/-- The result of a run is told by its items and by what somebody refuses, without a look at the
workers. -/
theorem run_result (hadd : IsAdditive visit) (htells : visit.Tells told) :
    (scanner.run visit refuses items).result =
      match scanner.error? told refuses items with
      | some e => .error e
      | none => .ok (scanner.total (items.map (share visit scanner.preparation.engine))) := by
  have hfirst : (scanner.results visit refuses items).findSome? failure? =
      scanner.error? told refuses items := findSome?_results htells
  cases herror : scanner.error? told refuses items with
  | some e =>
      rw [herror] at hfirst
      rw [run_result_eq, firstFailure_of_findSome? hfirst]
      rfl
  | none =>
      rw [herror] at hfirst
      obtain ⟨parts, hparts⟩ := exists_firstFailure_of_findSome? hfirst
      have hok : (scanner.run visit refuses items).result = .ok (scanner.total parts) := by
        rw [run_result_eq, hparts]
        rfl
      rw [hok, run_result_ok hadd hok]

theorem error?_of_result_ok (hadd : IsAdditive visit) (htells : visit.Tells told)
    (hresult : (scanner.run visit refuses items).result = .ok final) :
    scanner.error? told refuses items = none := by
  rw [run_result hadd htells] at hresult
  cases herror : scanner.error? told refuses items with
  | none => rfl
  | some e =>
      rw [herror] at hresult
      cases hresult

/-- A run ends with an event of its own if it does not fail. -/
theorem run_closing : (scanner.run visit refuses items).closing =
    match (scanner.run visit refuses items).result with
    | .error _ => []
    | .ok final => [closingEvent scanner.config.engine final
        (partition items.length scanner.config.workers).length] := by
  unfold run
  simp only
  split <;> rfl

/-! ### Runs without a failure -/

theorem flatten_mapIdx_first {β γ : Type} (first : List β) (others : γ → List β) (xs : List γ) :
    (xs.mapIdx fun i x => (if i = 0 then first else []) ++ others x).flatten =
      (if xs = [] then [] else first) ++ xs.flatMap others := by
  cases xs with
  | nil => rfl
  | cons x rest =>
      have hrest : (rest.mapIdx fun i x => (if i + 1 = 0 then first else []) ++ others x) =
          rest.map others := by
        apply List.ext_getElem (by simp)
        intro i hleft hright
        simp
      rw [List.mapIdx_cons, hrest, List.flatten_cons, List.flatMap_cons, List.flatMap_def]
      simp

/-- The events that the workers of a run raise if none of them is refused. -/
def raised (scanner : Scanner) (told : Nat → α → List Event) (items : List α) :
    List (List Event) :=
  (partition items.length scanner.config.workers).mapIdx fun worker range =>
    Worker.raised told scanner.preparation worker range.start (range.slice items)

theorem partition_items_eq_nil_iff {workers : Nat} :
    partition items.length workers = [] ↔ items = [] := by
  rw [partition_eq_nil_iff, List.length_eq_zero_iff]

/-- The first worker tells of the patterns, and all workers together of all items. -/
theorem flatten_raised (told : Nat → α → List Event) (items : List α) :
    (scanner.raised told items).flatten =
      (if items = [] then [] else scanner.refusals) ++
        if scanner.preparation.report.active = 0 then [] else Worker.toldOf told 0 items := by
  unfold raised Worker.raised Worker.preamble
  rw [← refusals, flatten_mapIdx_first]
  simp only [partition_items_eq_nil_iff]
  by_cases hactive : scanner.preparation.report.active = 0
  · simp only [if_pos hactive, List.flatMap_eq_nil_iff.2 fun _ _ => rfl]
  · simp only [if_neg hactive, flatMap_toldOf_partition]

theorem forall_mem_mapIdx_iff {β γ : Type} {f : Nat → β → γ} {P : γ → Prop} {xs : List β} :
    (∀ y ∈ xs.mapIdx f, P y) ↔ ∀ i, (h : i < xs.length) → P (f i xs[i]) := by
  constructor
  · intro hall i hi
    exact hall _ (List.mem_mapIdx.2 ⟨i, hi, rfl⟩)
  · intro hall y hy
    obtain ⟨i, hi, rfl⟩ := List.mem_mapIdx.1 hy
    exact hall i hi

theorem error?_eq_none_iff_forall : scanner.error? told refuses items = none ↔
    ∀ worker, (h : worker < (partition items.length scanner.config.workers).length) →
      let range := (partition items.length scanner.config.workers)[worker]
      Worker.error? told refuses scanner.preparation worker range.start (range.slice items) =
        none := by
  unfold error? errors
  rw [List.findSome?_eq_none_iff]
  exact forall_mem_mapIdx_iff

/-- A run without items succeeds; any other one has to have patterns and to see all its events
taken. -/
theorem error?_eq_none_iff_raised : scanner.error? told refuses items = none ↔
    items = [] ∨ (scanner.preparation.report.active ≠ 0 ∧
      (scanner.raised told items).flatten.any refuses = false) := by
  have hraised : (scanner.raised told items).flatten.any refuses = false ↔
      ∀ worker, (h : worker < (partition items.length scanner.config.workers).length) →
        let range := (partition items.length scanner.config.workers)[worker]
        (Worker.raised told scanner.preparation worker range.start
          (range.slice items)).any refuses = false := by
    unfold raised
    rw [List.any_flatten, List.any_eq_false]
    simp only [Bool.not_eq_true]
    exact forall_mem_mapIdx_iff
  rw [error?_eq_none_iff_forall, hraised]
  simp only [Worker.error?_eq_none_iff]
  -- without a worker nobody asks whether the engine has something to look for
  by_cases hnil : items = []
  · simp [hnil, partition]
  · have hranges : 0 < (partition items.length scanner.config.workers).length := by
      rw [List.length_pos_iff, Ne, partition_items_eq_nil_iff]
      exact hnil
    simp only [hnil, false_or]
    constructor
    · intro h
      exact ⟨(h 0 hranges).2, fun worker hworker => (h worker hworker).1⟩
    · rintro ⟨hactive, h⟩ worker hworker
      exact ⟨h worker hworker, hactive⟩

/-- No worker fails exactly if there is nothing to do, or if there is something to do it with and
none of the events is refused. -/
theorem error?_eq_none_iff : scanner.error? told refuses items = none ↔
    items = [] ∨ (scanner.preparation.report.active ≠ 0 ∧ scanner.refusals.any refuses = false ∧
      (Worker.toldOf told 0 items).any refuses = false) := by
  rw [error?_eq_none_iff_raised]
  by_cases hnil : items = []
  · simp only [hnil, true_or]
  · simp only [hnil, false_or]
    refine and_congr_right fun hactive => ?_
    rw [flatten_raised, if_neg hactive, if_neg hnil, List.any_append, Bool.or_eq_false_iff]

section

variable (htells : visit.Tells told) (hnone : scanner.error? told refuses items = none)

include htells hnone

theorem map_events_outcomes :
    (scanner.outcomes visit refuses items).map (·.events) = scanner.raised told items := by
  apply List.ext_getElem (by simp [outcomes, raised])
  intro worker hleft hright
  obtain ⟨total, hrun⟩ := Worker.run_of_error?_none htells
    (error?_eq_none_iff_forall.1 hnone worker (by simpa [raised] using hright))
  simp only [outcomes, raised, List.getElem_map, List.getElem_mapIdx, hrun]

theorem map_handled_outcomes : (scanner.outcomes visit refuses items).map (·.handled) =
    (partition items.length scanner.config.workers).map fun range =>
      (range.slice items).length := by
  apply List.ext_getElem (by simp [outcomes])
  intro worker hleft hright
  obtain ⟨total, hrun⟩ := Worker.run_of_error?_none htells
    (error?_eq_none_iff_forall.1 hnone worker (by simpa using hright))
  simp only [outcomes, List.getElem_map, List.getElem_mapIdx, hrun]

/-- The events of a run that does not fail: what there is to tell of the patterns, what there is to
tell of the items, and the closing event. -/
theorem run_events : (scanner.run visit refuses items).events =
    (if items = [] then [] else scanner.refusals) ++ Worker.toldOf told 0 items ++
      (scanner.run visit refuses items).closing := by
  unfold RunOutcome.events
  rw [run_workers, List.flatMap_def, map_events_outcomes htells hnone]
  rcases error?_eq_none_iff.1 hnone with hnil | ⟨hactive, -⟩
  · simp [hnil, raised, partition, Worker.toldOf]
  · rw [flatten_raised, if_neg hactive]

/-- All items are handled in a run that succeeds. -/
theorem run_progress : (scanner.run visit refuses items).progress = items.length := by
  rw [progress_eq_sum, run_workers, map_handled_outcomes htells hnone, sum_length_slice_partition]

end

end Scanner

end FormatScan
