import FormatScan.Proofs.Run.Accounting
import FormatScan.Proofs.Run.Interleaving

/-!
# Workers that fail

A worker fails if an event that it raises is refused or if its engine has nothing to look for. That
does not touch the other workers, and nothing of it is left for the runs behind it.
-/

namespace FormatScan

variable {α : Type} {visit : Visit α} {told : Nat → α → List Event} {refuses : Event → Bool}
  {preparation : Preparation}

/-! ### One worker -/

namespace Worker

theorem accepted_append (events rest : List Event) :
    accepted refuses (events ++ rest) =
      if events.any refuses then accepted refuses events else events ++ accepted refuses rest := by
  unfold accepted
  induction events with
  | nil => rfl
  | cons event events ih =>
      rw [List.cons_append, List.takeWhile_cons, List.takeWhile_cons, List.any_cons, ih]
      cases refuses event with
      | true => simp
      | false =>
          simp only [Bool.not_false, if_true, Bool.false_or]
          split <;> rfl

/-- A worker raises the events of its items up to the first one that is refused. -/
theorem events_visitAll (htells : visit.Tells told) (worker first : Nat) (engine : Engine)
    (stats : Stats) (items : List α) :
    (visitAll visit refuses worker engine first stats items).events =
      accepted refuses (toldOf told first items) := by
  induction items generalizing first stats with
  | nil => rfl
  | cons item rest ih =>
      rw [visitAll, toldOf_cons, accepted_append]
      simp only [htells engine first item stats]
      split
      · rfl
      · rw [ih]

/-- A worker raises its events up to the first one that is refused. -/
theorem events_run (htells : visit.Tells told) (worker first : Nat) (items : List α) :
    (run visit refuses preparation worker first items).events =
      accepted refuses (raised told preparation worker first items) := by
  rw [run_eq, raised, accepted_append]
  split
  · rfl
  · split
    · exact (List.append_nil _).symm
    · exact congrArg _ (events_visitAll htells worker first _ _ items)

def handledOf (told : Nat → α → List Event) (refuses : Event → Bool) (preparation : Preparation)
    (worker first : Nat) (items : List α) : Nat :=
  if (preamble preparation worker).any refuses ∨ preparation.report.active = 0 then 0
  else (takenOf told refuses first items).length

theorem handled_run (htells : visit.Tells told) (worker first : Nat) (items : List α) :
    (run visit refuses preparation worker first items).handled =
      handledOf told refuses preparation worker first items := by
  rw [run_eq, handledOf]
  split
  · rename_i hrefused
    rw [if_pos (.inl hrefused)]
  · rename_i haccepted
    split
    · rename_i hactive
      rw [if_pos (.inr hactive)]
    · rename_i hactive
      rw [if_neg (by simp [haccepted, hactive])]
      exact handled_visitAll htells worker first _ _ items

/-- What a worker comes to, told from its items. -/
structure Verdict (told : Nat → α → List Event) (refuses : Event → Bool) (preparation : Preparation)
    (worker first : Nat) (items : List α) (outcome : WorkerOutcome) : Prop where
  failure : failure? outcome.result = error? told refuses preparation worker first items
  events : outcome.events = accepted refuses (raised told preparation worker first items)
  handled : outcome.handled = handledOf told refuses preparation worker first items
  complete : failure? outcome.result = none →
    outcome.events = raised told preparation worker first items ∧ outcome.handled = items.length

theorem verdict_run (htells : visit.Tells told) (worker first : Nat) (items : List α) :
    Verdict told refuses preparation worker first items
      (run visit refuses preparation worker first items) := by
  refine ⟨failure?_run htells worker first items, events_run htells worker first items,
    handled_run htells worker first items, ?_⟩
  rw [failure?_run htells]
  intro hnone
  obtain ⟨total, htotal⟩ := run_of_error?_none htells hnone
  rw [htotal]
  exact ⟨rfl, rfl⟩

end Worker

/-! ### All workers -/

theorem failure?_eq_some_iff {result : Except ScanError Stats} {e : ScanError} :
    failure? result = some e ↔ result = .error e := by
  cases result with
  | ok part => simp [failure?]
  | error e' => simp [failure?]

theorem firstFailure_eq_error_iff_findSome? {results : List (Except ScanError Stats)}
    {e : ScanError} : firstFailure results = .error e ↔ results.findSome? failure? = some e := by
  constructor
  · intro herror
    cases hfirst : results.findSome? failure? with
    | some e' =>
        rw [firstFailure_of_findSome? hfirst] at herror
        rw [Except.error.inj herror]
    | none =>
        obtain ⟨parts, hparts⟩ := exists_firstFailure_of_findSome? hfirst
        rw [hparts] at herror
        cases herror
  · exact firstFailure_of_findSome?

/-- The error of a run is that of the first worker that failed. -/
theorem firstFailure_eq_error_iff {workers : List WorkerOutcome} {e : ScanError} :
    firstFailure (workers.map (·.result)) = .error e ↔
      ∃ front o back, workers = front ++ o :: back ∧ o.result = .error e ∧
        ∀ before ∈ front, failure? before.result = none := by
  rw [firstFailure_eq_error_iff_findSome?, List.findSome?_map, List.findSome?_eq_some_iff]
  simp only [Function.comp_apply, failure?_eq_some_iff]

theorem exists_firstFailure_eq_error_iff {workers : List WorkerOutcome} :
    (∃ e, firstFailure (workers.map (·.result)) = .error e) ↔
      ∃ o ∈ workers, ∃ e, o.result = .error e := by
  simp only [firstFailure_eq_error_iff_findSome?, List.findSome?_map, ← Option.isSome_iff_exists,
    List.findSome?_isSome_iff, Function.comp_apply]
  simp only [Option.isSome_iff_exists, failure?_eq_some_iff]

namespace Worker

/-- Whatever is refused, warnings are all that a worker raises. -/
theorem severity_of_mem_raised (hwarns : ∀ index item, ∀ event ∈ told index item,
    event.severity = .warn) {worker first : Nat} {items : List α} {event : Event}
    (hevent : event ∈ raised told preparation worker first items) : event.severity = .warn := by
  rcases List.mem_append.1 hevent with hpattern | hitem
  · unfold preamble at hpattern
    split at hpattern
    · obtain ⟨exclusion, -, rfl⟩ := List.mem_map.1 hpattern
      rfl
    · cases hpattern
  · split at hitem
    · cases hitem
    · obtain ⟨item, -, htold⟩ := List.mem_flatMap.1 hitem
      exact hwarns _ _ event htold

end Worker

namespace Scanner

variable {scanner : Scanner} {items : List α} {counter : Nat} {last : Ending}

/-- What becomes of a run some of whose workers may fail. -/
structure EndsAs (scanner : Scanner) (told : Nat → α → List Event) (refuses : Event → Bool)
    (items : List α) (last : Ending) : Prop where
  workers : last.workers.length = (partition items.length scanner.config.workers).length
  worker {k : Nat} {range : IndexRange} {outcome : WorkerOutcome}
    (hrange : (partition items.length scanner.config.workers)[k]? = some range)
    (houtcome : last.workers[k]? = some outcome) :
    Worker.Verdict told refuses scanner.preparation k range.start (range.slice items) outcome
  fails : (∃ e, last.result = .error e) ↔ ∃ o ∈ last.workers, ∃ e, o.result = .error e
  first {e : ScanError} (herror : last.result = .error e) :
    ∃ front o back, last.workers = front ++ o :: back ∧ o.result = .error e ∧
      ∀ before ∈ front, failure? before.result = none
  log {e : ScanError} (herror : last.result = .error e) :
    last.log.Perm (last.workers.flatMap (·.events)) ∧ ∀ event ∈ last.log, event.severity = .warn
  progress : last.progress = (last.workers.map (·.handled)).sum

/-- Where a worker fails and those before it do not, its error is that of the run: no other worker
can be the first one. -/
theorem EndsAs.result_eq_error (hends : scanner.EndsAs told refuses items last)
    {front back : List WorkerOutcome} {o : WorkerOutcome} {e : ScanError}
    (hworkers : last.workers = front ++ o :: back) (hresult : o.result = .error e)
    (hbefore : ∀ before ∈ front, failure? before.result = none) : last.result = .error e := by
  obtain ⟨e', herror⟩ := hends.fails.2 ⟨o, by simp [hworkers], e, hresult⟩
  have hfirst := firstFailure_eq_error_iff.2 (hends.first herror)
  rw [firstFailure_eq_error_iff.2 ⟨front, o, back, hworkers, hresult, hbefore⟩] at hfirst
  rw [herror, ← Except.error.inj hfirst]

/-- A run fails if and only if one of its workers does. -/
theorem run_result_eq_error_iff {e : ScanError} :
    (scanner.run visit refuses items).result = .error e ↔
      firstFailure ((scanner.outcomes visit refuses items).map (·.result)) = .error e := by
  rw [run_result_eq, map_result_outcomes]
  cases firstFailure (scanner.results visit refuses items) <;> simp [Except.map]

/-- In whatever order the workers take their steps, a run ends the same way. -/
theorem endsAs_of_executes (htells : visit.Tells told)
    (hwarns : ∀ index item, ∀ event ∈ told index item, event.severity = .warn)
    (hexecutes : scanner.Executes visit refuses counter items last) :
    scanner.EndsAs told refuses items last := by
  obtain ⟨hworkers, hresult, hprogress, hlog⟩ := executes_agrees hexecutes
  rw [run_workers] at hworkers
  refine ⟨?_, ?_, ?_, ?_, ?_, ?_⟩
  · rw [hworkers]
    simp [outcomes]
  · intro k range outcome hrange houtcome
    rw [hworkers, outcomes, List.getElem?_mapIdx, hrange] at houtcome
    rw [← Option.some.inj houtcome]
    exact Worker.verdict_run htells k range.start (range.slice items)
  · simp only [hresult, hworkers, run_result_eq_error_iff, exists_firstFailure_eq_error_iff]
  · intro e herror
    rw [hworkers]
    exact firstFailure_eq_error_iff.1 (run_result_eq_error_iff.1 (hresult ▸ herror))
  · intro e herror
    have hevents : (scanner.run visit refuses items).events = last.workers.flatMap (·.events) := by
      rw [RunOutcome.events, run_closing, ← hresult, herror, List.append_nil, run_workers, hworkers]
    rw [hevents] at hlog
    refine ⟨hlog, ?_⟩
    intro event hevent
    obtain ⟨o, ho, hevent⟩ := List.mem_flatMap.1 (hlog.mem_iff.1 hevent)
    rw [hworkers] at ho
    obtain ⟨k, hk, rfl⟩ := List.mem_mapIdx.1 ho
    rw [Worker.events_run htells] at hevent
    exact Worker.severity_of_mem_raised hwarns ((List.takeWhile_sublist _).mem hevent)
  · rw [hprogress, progress_eq_sum, run_workers, hworkers]

end Scanner

/-! ### One run after the other -/

inductive Call where
  | buffers (refuses : Event → Bool) (buffers : List ByteArray)
  | paths (tree : FileTree) (refuses : Event → Bool) (paths : List Path)

namespace Call

variable {scanner : Scanner} {counter counter' : Nat} {call : Call} {last last' : Ending}

def outcome (scanner : Scanner) (call : Call) : RunOutcome :=
  match call with
  | .buffers refuses items => scanner.scanBuffers refuses items
  | .paths tree refuses items => scanner.scanPaths tree refuses items

def Executes (call : Call) (scanner : Scanner) (counter : Nat) (last : Ending) : Prop :=
  match call with
  | .buffers refuses items =>
    scanner.Executes (visitBuffer scanner.config.maxFileSize) refuses counter items last
  | .paths tree refuses items =>
    scanner.Executes (visitPath tree scanner.config.maxFileSize) refuses counter items last

/-- An execution agrees with the run of the workers one after the other. -/
theorem executes_agrees (hexecutes : call.Executes scanner counter last) :
    last.result = (call.outcome scanner).result ∧
      last.progress = (call.outcome scanner).progress ∧
      last.log.Perm (call.outcome scanner).events := by
  cases call with
  | buffers refuses items => exact (Scanner.executes_agrees hexecutes).2
  | paths tree refuses items => exact (Scanner.executes_agrees hexecutes).2

/-- What the counter was before makes no difference. -/
theorem executes_alike (hexecutes : call.Executes scanner counter last)
    (hexecutes' : call.Executes scanner counter' last') :
    last.result = last'.result ∧ last.progress = last'.progress ∧ last.log.Perm last'.log := by
  obtain ⟨hresult, hprogress, hlog⟩ := executes_agrees hexecutes
  obtain ⟨hresult', hprogress', hlog'⟩ := executes_agrees hexecutes'
  exact ⟨hresult.trans hresult'.symm, hprogress.trans hprogress'.symm, hlog.trans hlog'.symm⟩

end Call

/-- Runs with one scanner, each of which finds the counter as the one before has left it. -/
inductive Session (scanner : Scanner) : Nat → List (Call × Ending) → Prop
  | nil {counter : Nat} : Session scanner counter []
  | cons {counter : Nat} {call : Call} {last : Ending} {rest : List (Call × Ending)}
      (hexecutes : call.Executes scanner counter last)
      (hrest : Session scanner last.progress rest) :
      Session scanner counter ((call, last) :: rest)

theorem Session.exists_executes {scanner : Scanner} {counter : Nat} {runs : List (Call × Ending)}
    (hsession : Session scanner counter runs) {call : Call} {last : Ending}
    (hmem : (call, last) ∈ runs) : ∃ counter', call.Executes scanner counter' last := by
  induction hsession with
  | nil => cases hmem
  | cons hexecutes _ ih =>
      rcases List.mem_cons.1 hmem with heq | hmem
      · cases heq
        exact ⟨_, hexecutes⟩
      · exact ih hmem

theorem severity_bufferWarning? (limit index : Nat) (bytes : ByteArray) :
    ∀ event ∈ (bufferWarning? limit index bytes).toList, event.severity = .warn := by
  intro event hevent
  unfold bufferWarning? at hevent
  split at hevent
  · rw [List.mem_singleton.1 hevent]
    rfl
  · cases hevent

/-- A run over buffers comes to an end, and whatever the order in which its workers take their
steps, it is the first one that fails that the run fails with, while the others are not touched.
Runs behind it, or behind any others, go as they would have gone at first. -/
theorem Scanner.scanBuffers_of_failures (scanner : Scanner) :
    (∀ refuses counter buffers,
      (WellFounded fun s' s => RunState.Moves (visitBuffer scanner.config.maxFileSize) refuses
        scanner.preparation s s') ∧
      (∃ last, scanner.Executes (visitBuffer scanner.config.maxFileSize) refuses counter buffers
        last) ∧
      ∀ last, scanner.Executes (visitBuffer scanner.config.maxFileSize) refuses counter buffers
          last →
        scanner.EndsAs
          (fun index bytes => (bufferWarning? scanner.config.maxFileSize index bytes).toList)
          refuses buffers last) ∧
    ∀ counter runs, Session scanner counter runs → ∀ call last, (call, last) ∈ runs →
      ∀ alone, call.Executes scanner 0 alone →
        last.result = alone.result ∧ last.progress = alone.progress ∧
          last.log.Perm alone.log := by
  constructor
  · intro refuses counter buffers
    have htells := (settles_visitBuffer scanner.config.maxFileSize).tells
    refine ⟨RunState.wellFounded_moves htells, exists_executes htells scanner counter buffers, ?_⟩
    intro last hexecutes
    exact endsAs_of_executes htells (severity_bufferWarning? _) hexecutes
  · intro counter runs hsession call last hmem alone halone
    obtain ⟨counter', hexecutes⟩ := hsession.exists_executes hmem
    exact Call.executes_alike hexecutes halone

def shortBuffers : List ByteArray := [⟨#[80, 75]⟩, ⟨#[80, 75, 3, 4]⟩, ⟨#[]⟩]

/-- Nobody takes the warning about the second buffer, which its worker does not survive. The run
behind it, of which every warning is taken, goes as if it were the first. -/
theorem zipScanner_second_fails : ∃ last behind,
    Session (zipScanner 3) 7 [(.buffers (·.subject == .run) shortBuffers, last),
      (.buffers (fun _ => false) shortBuffers, behind)] ∧
    last.result = .error (.workerPanicked 1) ∧ last.progress = 2 ∧ last.log = [] ∧
    (∃ final, behind.result = .ok final ∧ final.filesProcessed = 2) ∧ behind.progress = 3 := by
  obtain ⟨hends, hbehind⟩ := Scanner.scanBuffers_of_failures (zipScanner 3)
  obtain ⟨-, ⟨last, hexecutes⟩, hends⟩ := hends (·.subject == .run) 7 shortBuffers
  have hlast := hends last hexecutes
  obtain ⟨w₀, w₁, w₂, hworkers⟩ := List.length_eq_three.1 (hlast.workers.trans (by decide))
  have hverdict₀ := hlast.worker (k := 0) rfl (by rw [hworkers]; rfl)
  have hverdict₁ := hlast.worker (k := 1) rfl (by rw [hworkers]; rfl)
  have hverdict₂ := hlast.worker (k := 2) rfl (by rw [hworkers]; rfl)
  have hok : failure? w₀.result = none := hverdict₀.failure.trans (by decide +kernel)
  have hpanicked : w₁.result = .error (.workerPanicked 1) :=
    failure?_eq_some_iff.1 (hverdict₁.failure.trans (by decide +kernel))
  have herror : last.result = .error (.workerPanicked 1) := by
    have hsplit : last.workers = [w₀] ++ w₁ :: [w₂] := hworkers
    exact hlast.result_eq_error hsplit hpanicked (by simpa using hok)
  obtain ⟨-, ⟨behind, hfollows⟩, -⟩ := (Scanner.scanBuffers_of_failures (zipScanner 3)).1
    (fun _ => false) last.progress shortBuffers
  obtain ⟨-, ⟨alone, halone⟩, -⟩ := (Scanner.scanBuffers_of_failures (zipScanner 3)).1
    (fun _ => false) 0 shortBuffers
  have hsession : Session (zipScanner 3) 7 [(.buffers (·.subject == .run) shortBuffers, last),
      (.buffers (fun _ => false) shortBuffers, behind)] :=
    .cons hexecutes (.cons hfollows .nil)
  obtain ⟨hresult, hprogress, -⟩ := hbehind 7 _ hsession (.buffers (fun _ => false) shortBuffers)
    behind (by simp) alone halone
  obtain ⟨final, hfinal⟩ := exists_result_zipScanner (isAdditive_visitBuffer 3) 3 shortBuffers
  have haccounts := ((zipScanner 3).run_accounts fun _ => false).1 shortBuffers final hfinal
  obtain ⟨-, hagrees, hcounter, -⟩ := Scanner.executes_agrees halone
  refine ⟨last, behind, hsession, herror, ?_, ?_, ⟨final, ?_, ?_⟩, ?_⟩
  · rw [hlast.progress, hworkers]
    simp only [List.map_cons, List.map_nil, hverdict₀.handled, hverdict₁.handled,
      hverdict₂.handled]
    decide +kernel
  · have hlog := (hlast.log herror).1
    rw [hworkers] at hlog
    simp only [List.flatMap_cons, List.flatMap_nil, hverdict₀.events, hverdict₁.events,
      hverdict₂.events] at hlog
    exact List.perm_nil.1 hlog
  · exact hresult.trans (hagrees.trans hfinal)
  · exact haccounts.counted.trans (by decide +kernel)
  · exact hprogress.trans (hcounter.trans haccounts.progress)

end FormatScan
