import FormatScan.Proofs.Engine.Hits
import FormatScan.Proofs.Run.Cover

/-!
# What a run comes to

An item adds the same to statistics whatever was there before. Such visits make the statistics of a
worker the sum of what its items add, and the statistics of a run the corrected sum over all items:
the workers and their parts of the list leave no trace.
-/

namespace FormatScan

variable {α : Type} {visit : Visit α} {refuses : Event → Bool}

def share (visit : Visit α) (engine : Engine) (item : α) : Stats := (visit engine 0 item .empty).1

/-- What an item adds is the same whatever was there before and whatever its index is. -/
def IsAdditive (visit : Visit α) : Prop :=
  ∀ engine index item stats,
    (visit engine index item stats).1.beginFile = (stats.merge (share visit engine item)).beginFile

/-- What a buffer adds does not depend on the buffers before it. -/
theorem isAdditive_visitBuffer (limit : Nat) : IsAdditive (visitBuffer limit) := by
  intro engine index bytes stats
  by_cases hempty : bytes.size = 0
  · simp only [share, visitBuffer, hempty, if_true]
    rfl
  · by_cases hlimit : limit < bytes.size
    · simp only [share, visitBuffer, hempty, hlimit, if_false, if_true]
      rfl
    · simp only [share, visitBuffer, hempty, hlimit, if_false]
      rw [engine.scanFile_eq_onto bytes stats, Stats.beginFile_onto]

/-! ### One worker -/

namespace Worker

theorem visitAll_result_ok (hadd : IsAdditive visit) {worker first : Nat} {engine : Engine}
    {stats total : Stats} {items : List α}
    (hresult : (visitAll visit refuses worker engine first stats items).result = .ok total) :
    total.beginFile = (stats.merge (.mergeAll (items.map (share visit engine)))).beginFile := by
  induction items generalizing first stats with
  | nil =>
      have htotal : stats = total := Except.ok.inj hresult
      rw [← htotal]
      rfl
  | cons item rest ih =>
      rw [visitAll] at hresult
      by_cases hrefused : (visit engine first item stats).2.any refuses = true
      · simp only [hrefused, if_true] at hresult
        cases hresult
      · simp only [hrefused] at hresult
        rw [ih hresult, ← Stats.beginFile_merge, hadd, Stats.beginFile_merge, List.map_cons,
          Stats.mergeAll_cons, Stats.beginFile_merge, Stats.merge_beginFile, Stats.merge_assoc]

theorem visitAll_result_of_accepts (haccepts : ∀ event, refuses event = false) (worker : Nat)
    (engine : Engine) (first : Nat) (stats : Stats) (items : List α) :
    ∃ total, (visitAll visit refuses worker engine first stats items).result = .ok total := by
  induction items generalizing first stats with
  | nil => exact ⟨stats, rfl⟩
  | cons item rest ih =>
      have hnone : (visit engine first item stats).2.any refuses = false := by simp [haccepts]
      obtain ⟨total, htotal⟩ := ih (first + 1) (visit engine first item stats).1
      refine ⟨total, ?_⟩
      rw [visitAll]
      simpa [hnone] using htotal

variable {preparation : Preparation}

theorem run_result_ok (hadd : IsAdditive visit) {worker first : Nat} {total : Stats}
    {items : List α}
    (hresult : (run visit refuses preparation worker first items).result = .ok total) :
    total.beginFile = .mergeAll (items.map (share visit preparation.engine)) := by
  rw [run] at hresult
  by_cases htold : (if worker = 0 then preparation.report.events preparation.engine.kind
      else []).any refuses = true
  · simp only [htold, if_true] at hresult
    cases hresult
  · by_cases hactive : preparation.report.active = 0
    · simp only [htold, hactive, if_true] at hresult
      cases hresult
    · simp only [htold, hactive, if_false] at hresult
      rw [visitAll_result_ok hadd hresult, Stats.empty_merge, Stats.beginFile_beginFile,
        Stats.beginFile_mergeAll]

/-- Where no event is refused, a worker fails only for want of patterns. -/
theorem run_result_of_accepts (haccepts : ∀ event, refuses event = false) (worker first : Nat)
    (items : List α) :
    (preparation.report.active = 0 ∧
        (run visit refuses preparation worker first items).result = .error .noUsableSignatures) ∨
      (preparation.report.active ≠ 0 ∧
        ∃ total, (run visit refuses preparation worker first items).result = .ok total) := by
  have hnone (events : List Event) : events.any refuses = false := by simp [haccepts]
  by_cases hactive : preparation.report.active = 0
  · left
    refine ⟨hactive, ?_⟩
    rw [run]
    simp [hnone, hactive]
  · right
    obtain ⟨total, htotal⟩ := visitAll_result_of_accepts haccepts worker preparation.engine first
      .empty items
    refine ⟨hactive, total, ?_⟩
    rw [run]
    simpa [hnone, hactive] using htotal

end Worker

/-! ### All workers -/

theorem firstFailure_error_cons (e : ScanError) (rest : List (Except ScanError Stats)) :
    firstFailure (.error e :: rest) = .error e := by
  rw [firstFailure, List.mapM_cons]
  rfl

/-- Parts are gathered as long as no worker has failed. -/
theorem firstFailure_ok_cons (part : Stats) (rest : List (Except ScanError Stats)) :
    firstFailure (.ok part :: rest) = (firstFailure rest).map (part :: ·) := by
  rw [firstFailure, List.mapM_cons, firstFailure]
  cases rest.mapM id <;> rfl

theorem exists_firstFailure_eq_ok {results : List (Except ScanError Stats)}
    (hall : ∀ result ∈ results, ∃ part, result = .ok part) :
    ∃ parts, firstFailure results = .ok parts := by
  induction results with
  | nil => exact ⟨[], rfl⟩
  | cons result rest ih =>
      obtain ⟨part, hpart⟩ := hall result List.mem_cons_self
      obtain ⟨parts, hparts⟩ := ih fun other hother => hall other (List.mem_cons_of_mem _ hother)
      refine ⟨part :: parts, ?_⟩
      rw [hpart, firstFailure_ok_cons, hparts]
      rfl

theorem eq_map_ok_of_firstFailure {results : List (Except ScanError Stats)} {parts : List Stats}
    (hok : firstFailure results = .ok parts) : results = parts.map .ok := by
  induction results generalizing parts with
  | nil =>
      have hparts : [] = parts := Except.ok.inj hok
      rw [← hparts]
      rfl
  | cons result rest ih =>
      cases result with
      | error e =>
          rw [firstFailure_error_cons] at hok
          cases hok
      | ok part =>
          rw [firstFailure_ok_cons] at hok
          cases hrest : firstFailure rest with
          | error e =>
              rw [hrest] at hok
              cases hok
          | ok others =>
              rw [hrest] at hok
              have hparts : part :: others = parts := Except.ok.inj hok
              rw [← hparts, ih hrest, List.map_cons]

namespace Scanner

variable {scanner : Scanner} {items : List α}

def preparation (scanner : Scanner) : Preparation :=
  ({ kind := scanner.config.engine } : Engine).prepare scanner.patterns

def results (scanner : Scanner) (visit : Visit α) (refuses : Event → Bool) (items : List α) :
    List (Except ScanError Stats) :=
  (partition items.length scanner.config.workers).mapIdx fun worker range =>
    (Worker.run visit refuses scanner.preparation worker range.start (range.slice items)).result

def total (scanner : Scanner) (parts : List Stats) : Stats :=
  (Stats.mergeAll parts).correct scanner.signatures scanner.config.container

theorem run_result_eq (scanner : Scanner) (visit : Visit α) (refuses : Event → Bool)
    (items : List α) :
    (scanner.run visit refuses items).result =
      (firstFailure (scanner.results visit refuses items)).map scanner.total := by
  have hresults : (((partition items.length scanner.config.workers).mapIdx fun worker range =>
      Worker.run visit refuses scanner.preparation worker range.start
        (range.slice items)).map (·.result)) = scanner.results visit refuses items :=
    List.ext_getElem (by simp [results]) (by simp [results])
  rw [run]
  simp only
  rw [← hresults]
  unfold preparation
  split <;> rename_i hfailure <;> rw [hfailure] <;> rfl

/-- The parts of all workers add up to what all items add. -/
theorem mergeAll_of_results_eq (hadd : IsAdditive visit) {parts : List Stats}
    (hresults : scanner.results visit refuses items = parts.map .ok) :
    Stats.mergeAll parts = .mergeAll (items.map (share visit scanner.preparation.engine)) := by
  have hlength : parts.length = (partition items.length scanner.config.workers).length := by
    rw [← List.length_map (f := Except.ok (ε := ScanError)), ← hresults, results,
      List.length_mapIdx]
  have hparts : parts.map Stats.beginFile =
      (partition items.length scanner.config.workers).map fun range =>
        Stats.mergeAll ((range.slice items).map (share visit scanner.preparation.engine)) := by
    apply List.ext_getElem (by simp [hlength])
    intro i hleft hright
    have hi : i < parts.length := by simpa using hleft
    have hresult : (scanner.results visit refuses items)[i]? = some (.ok parts[i]) := by
      rw [hresults, List.getElem?_map, List.getElem?_eq_getElem hi]
      rfl
    rw [results, List.getElem?_mapIdx, List.getElem?_eq_getElem (hlength ▸ hi)] at hresult
    rw [List.getElem_map, List.getElem_map]
    exact Worker.run_result_ok hadd (Option.some.inj hresult)
  calc
    Stats.mergeAll parts = .mergeAll (parts.map Stats.beginFile) :=
      (Stats.mergeAll_map_beginFile parts).symm
    _ = .mergeAll ((partition items.length scanner.config.workers).map fun range =>
          (range.slice items).map (share visit scanner.preparation.engine)).flatten := by
      rw [hparts, ← Stats.mergeAll_flatten, List.map_map]
      rfl
    _ = .mergeAll (items.map (share visit scanner.preparation.engine)) := by
      rw [← List.flatMap_def, ← List.map_flatMap, flatMap_slice_partition]

theorem run_result_ok (hadd : IsAdditive visit) {stats : Stats}
    (hresult : (scanner.run visit refuses items).result = .ok stats) :
    stats = scanner.total (items.map (share visit scanner.preparation.engine)) := by
  rw [run_result_eq] at hresult
  cases hfailure : firstFailure (scanner.results visit refuses items) with
  | error e =>
      rw [hfailure] at hresult
      cases hresult
  | ok parts =>
      rw [hfailure] at hresult
      have hstats : scanner.total parts = stats := Except.ok.inj hresult
      rw [← hstats, total, mergeAll_of_results_eq hadd (eq_map_ok_of_firstFailure hfailure), total]

theorem exists_of_mem_results {result : Except ScanError Stats}
    (hmem : result ∈ scanner.results visit refuses items) :
    ∃ worker first part,
      result = (Worker.run visit refuses scanner.preparation worker first part).result := by
  obtain ⟨worker, hworker, hresult⟩ := List.mem_mapIdx.1 hmem
  exact ⟨worker, _, _, hresult.symm⟩

/-- Where every event is taken, a run fails only if there is something to do and nothing to do it
with. -/
theorem run_result_of_accepts (hadd : IsAdditive visit)
    (haccepts : ∀ event, refuses event = false) (scanner : Scanner) (items : List α) :
    (scanner.run visit refuses items).result =
      if items ≠ [] ∧ scanner.preparation.report.active = 0 then .error .noUsableSignatures
      else .ok (scanner.total (items.map (share visit scanner.preparation.engine))) := by
  by_cases hfail : items ≠ [] ∧ scanner.preparation.report.active = 0
  · obtain ⟨hne, hactive⟩ := hfail
    rw [if_pos ⟨hne, hactive⟩, run_result_eq]
    cases hresults : scanner.results visit refuses items with
    | nil =>
        have hnil := partition_eq_nil_iff.1 (List.mapIdx_eq_nil_iff.1 hresults)
        exact absurd (List.length_eq_zero_iff.1 hnil) hne
    | cons result rest =>
        obtain ⟨worker, first, part, hresult⟩ :=
          exists_of_mem_results (hresults ▸ List.mem_cons_self)
        rcases Worker.run_result_of_accepts haccepts worker first part with
          ⟨-, herror⟩ | ⟨hnonzero, -⟩
        · rw [hresult, herror, firstFailure_error_cons]
          rfl
        · exact absurd hactive hnonzero
  · rw [if_neg hfail]
    have hall : ∀ result ∈ scanner.results visit refuses items, ∃ part, result = .ok part := by
      intro result hmem
      obtain ⟨worker, first, part, hresult⟩ := exists_of_mem_results hmem
      rcases Worker.run_result_of_accepts haccepts worker first part with
        ⟨hactive, -⟩ | ⟨-, total, htotal⟩
      · refine absurd ⟨?_, hactive⟩ hfail
        intro hnil
        have hranges : partition items.length scanner.config.workers = [] :=
          partition_eq_nil_iff.2 (List.length_eq_zero_iff.2 hnil)
        rw [results, hranges] at hmem
        cases hmem
      · exact ⟨total, by rw [hresult, htotal]⟩
    obtain ⟨parts, hparts⟩ := exists_firstFailure_eq_ok hall
    have hok : (scanner.run visit refuses items).result = .ok (scanner.total parts) := by
      rw [run_result_eq, hparts]
      rfl
    rw [hok, run_result_ok hadd hok]

end Scanner

end FormatScan
