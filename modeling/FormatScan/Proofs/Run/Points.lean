import FormatScan.Proofs.Correction.References
import FormatScan.Proofs.Pattern.Detected
import FormatScan.Proofs.Run.Interleaving
import FormatScan.Proofs.Run.Skipped
import FormatScan.Proofs.Stats.Names

/-!
# Who has an entry in the course of a run

At every point of a run, be it within a file or within a pass of the correction, the names with an
entry are names of signatures that the engine has a pattern of. So a reference to a name that no
definition has never meets an entry, and a run comes to the same without it.
-/

namespace FormatScan

open Signature

variable {α : Type} {visit : Visit α} {refuses : Event → Bool} {preparation : Preparation}
  {P : String → Prop}

/-! ### The correction -/

namespace Stats

variable {signatures : List Signature} {policy : ContainerPolicy} {before s : Stats}

/-- Takes the counts of some children, as they were at first, from those of their parents. -/
def deductSome (taken : List (String × String)) (s : Stats) : Stats :=
  { s with counts := taken.foldl (fun counts d => counts.subtract d.1 (s.count d.2)) s.counts }

/-- The statistics on the way through the correction: those in front of a pass and behind it, and
those within a pass, when only some of its turns have been taken. -/
inductive ComesUp (signatures : List Signature) (policy : ContainerPolicy) (before : Stats) :
    Stats → Prop
  | deducting {front} (hfront : front <+: deductions signatures) :
      ComesUp signatures policy before (before.deductSome front)
  | deductedDerived :
      ComesUp signatures policy before (deductDerived policy (deduct signatures before))
  | relocating {s front} (hs : s = deductDerived policy (deduct signatures before))
      (hderived : policy.derived.any s.isPresent = true) (hfront : front <+: policy.embedded) :
      ComesUp signatures policy before (front.foldl relocate s)
  | relocatingThresholded {s front} (hs : s = deductDerived policy (deduct signatures before))
      (hderived : policy.derived.any s.isPresent = true) (hfront : front <+: policy.thresholded) :
      ComesUp signatures policy before (front.foldl
        (fun s name => if policy.imageThreshold < s.count name then s.relocate name else s)
        (policy.embedded.foldl relocate s))
  | excluding {s front}
      (hs : s = relocateEmbedded policy (deductDerived policy (deduct signatures before)))
      (hfront : front <+: exclusivePairs signatures) :
      ComesUp signatures policy before (front.foldl (excludeOne signatures) s)

theorem comesUp_correct (signatures : List Signature) (policy : ContainerPolicy) (s : Stats) :
    ComesUp signatures policy s (correct signatures policy s) :=
  .excluding rfl (List.prefix_refl _)

namespace NamesIn

theorem deductSome (hnames : s.NamesIn P) (taken : List (String × String)) :
    (s.deductSome taken).NamesIn P :=
  hnames.subtracted (names_foldl_subtract taken s.count s.counts)

/-- A deduction adds no name. -/
theorem deductDerived (hnames : s.NamesIn P) (policy : ContainerPolicy) :
    (deductDerived policy s).NamesIn P :=
  hnames.subtracted (Counts.names_subtract _ _ _)

theorem relocateAll (hnames : s.NamesIn P) (names : List String) :
    (names.foldl Stats.relocate s).NamesIn P :=
  hnames.foldl fun name _ _ hs => hs.relocate name

theorem relocateExceeding (hnames : s.NamesIn P) (threshold : Nat) (names : List String) :
    (names.foldl (fun s name => if threshold < s.count name then s.relocate name else s)
      s).NamesIn P := by
  refine hnames.foldl fun name _ s hs => ?_
  split
  · exact hs.relocate name
  · exact hs

theorem relocateEmbedded (hnames : s.NamesIn P) (policy : ContainerPolicy) :
    (relocateEmbedded policy s).NamesIn P := by
  unfold Stats.relocateEmbedded
  split
  · exact (hnames.relocateAll _).relocateExceeding _ _
  · exact hnames

/-- No turn of the correction makes an entry for a name that has none. -/
theorem of_comesUp (hcomesUp : ComesUp signatures policy before s) (hnames : before.NamesIn P) :
    s.NamesIn P := by
  have hdeducted : (deduct signatures before).NamesIn P := hnames.deductSome _
  have hlessened := hdeducted.deductDerived policy
  cases hcomesUp with
  | deducting => exact hnames.deductSome _
  | deductedDerived => exact hlessened
  | relocating hs =>
      rw [hs]
      exact hlessened.relocateAll _
  | relocatingThresholded hs =>
      rw [hs]
      exact (hlessened.relocateAll _).relocateExceeding _ _
  | excluding hs =>
      rw [hs]
      exact (hlessened.relocateEmbedded policy).foldl fun pair _ _ h => h.excludeOne pair

end NamesIn

end Stats

/-! ### Files -/

namespace Engine

def Seeks (e : Engine) (name : String) : Prop := ∃ m ∈ e.matchers, m.pattern.name = name

variable {e : Engine} {m : Matcher} {h : Regex.Haystack} {s : Stats}

theorem mem_matchers_of_mem_tried (hm : m ∈ e.tried h) : m ∈ e.matchers := by
  unfold tried candidates at hm
  split at hm
  · split at hm
    · exact hm
    · obtain ⟨pair, hpair, rfl⟩ := List.mem_map.1 hm
      exact (List.of_mem_zip (List.mem_filter.1 hpair).1).1
  · exact hm

/-- A scan counts names that are looked for, at every point within a file. -/
theorem namesIn_foldl_verifyMatcher {front : List Matcher} (hfront : front ⊆ e.tried h)
    (hnames : s.NamesIn e.Seeks) : (front.foldl (verifyMatcher h) s).NamesIn e.Seeks := by
  refine hnames.foldl fun m hm s hs => ?_
  unfold verifyMatcher
  split
  · exact hs.recorded ⟨m, mem_matchers_of_mem_tried (hfront hm), rfl⟩
  · exact hs

theorem namesIn_visitBuffer (limit index : Nat) (bytes : ByteArray) (s : Stats)
    (hnames : s.NamesIn e.Seeks) :
    (visitBuffer limit e index bytes s).1.NamesIn e.Seeks := by
  unfold visitBuffer
  split
  · exact hnames.fileProcessed
  · split
    · exact hnames
    · unfold scanFile
      rw [scan_eq_foldl_verifyMatcher, if_neg (by assumption)]
      exact (namesIn_foldl_verifyMatcher (List.Subset.refl _) hnames.beginFile).fileProcessed

end Engine

/-! ### Workers -/

def Phase.stats? : Phase → Option Stats
  | .visiting stats => some stats
  | .reporting stats _ => some stats
  | .finished (.ok stats) => some stats
  | _ => none

def Task.NamesIn (P : String → Prop) (t : Task α) : Prop :=
  ∀ stats, t.phase.stats? = some stats → stats.NamesIn P

section

variable (hvisit : ∀ index item s, s.NamesIn P →
  (visit preparation.engine index item s).1.NamesIn P)

include hvisit

theorem Task.namesIn_of_step {t t' : Task α} {events : List Event} {ticks : Nat}
    (hstep : Step visit refuses preparation t events ticks t') (hnames : t.NamesIn P) :
    t'.NamesIn P := by
  intro stats hstats
  cases hstep with
  | tell => cases hstats
  | tellRefused => cases hstats
  | unusable => cases hstats
  | begin =>
      cases hstats
      exact .empty
  | visit =>
      cases hstats
      exact hvisit _ _ _ (hnames _ rfl)
  | report => exact hnames stats hstats
  | reportRefused => cases hstats
  | tick => exact hnames stats hstats
  | finish => exact hnames stats hstats

/-- No worker comes to have another name, whoever goes next. -/
theorem RunState.namesIn_of_reaches {s s' : RunState α}
    (hreaches : Reaches visit refuses preparation s s') (hnames : ∀ t ∈ s.tasks, t.NamesIn P) :
    ∀ t ∈ s'.tasks, t.NamesIn P := by
  induction hreaches with
  | refl => exact hnames
  | tail _ hmoves ih =>
      obtain ⟨hstep⟩ := hmoves
      simp only [List.forall_mem_append, List.forall_mem_cons] at ih ⊢
      exact ⟨ih.1, Task.namesIn_of_step hvisit hstep ih.2.1, ih.2.2⟩

end

theorem RunState.exists_task_of_mem_parts {s : RunState α} {parts : List Stats} {part : Stats}
    (hparts : firstFailure (s.joined.map (·.result)) = .ok parts) (hpart : part ∈ parts) :
    ∃ t ∈ s.tasks, t.phase.stats? = some part := by
  have hmem : Except.ok part ∈ s.joined.map (·.result) := by
    rw [eq_map_ok_of_firstFailure hparts]
    exact List.mem_map_of_mem hpart
  obtain ⟨outcome, houtcome, hresult⟩ := List.mem_map.1 hmem
  obtain ⟨worker, hworker, rfl⟩ := List.mem_mapIdx.1 houtcome
  refine ⟨_, List.getElem_mem hworker, ?_⟩
  unfold Task.joined at hresult
  split at hresult
  · rename_i result hphase
    rw [hphase, show result = .ok part from hresult]
    rfl
  · cases hresult

/-! ### Runs -/

namespace Scanner

variable {scanner : Scanner} {buffers : List ByteArray} {counter : Nat} {stats final : Stats}

/-- The workers of a run over buffers may have come so far. -/
def IsReached (scanner : Scanner) (refuses : Event → Bool) (counter : Nat)
    (buffers : List ByteArray) (s : RunState ByteArray) : Prop :=
  RunState.Reaches (visitBuffer scanner.config.maxFileSize) refuses scanner.preparation
    (scanner.start counter buffers) s

/-- The statistics at some point of a run over buffers: a worker holds them between two buffers or
while it scans one, or they are the sum of what some of the workers have found, or they come up on
the way through the correction. -/
inductive IsPoint (scanner : Scanner) (refuses : Event → Bool) (counter : Nat)
    (buffers : List ByteArray) : Stats → Prop
  | working {s t stats}
      (hreached : scanner.IsReached refuses counter buffers s)
      (ht : t ∈ s.tasks) (hstats : t.phase.stats? = some stats) :
      IsPoint scanner refuses counter buffers stats
  -- both kinds of engines try a matcher alike, see `Engine.tryMatcher_eq_verifyMatcher`
  | scanning {s t stats bytes rest front}
      (hreached : scanner.IsReached refuses counter buffers s)
      (ht : t ∈ s.tasks) (hphase : t.phase = .visiting stats) (hitems : t.items = bytes :: rest)
      (hnonempty : bytes.size ≠ 0) (hsize : bytes.size ≤ scanner.config.maxFileSize)
      (hfront : front <+: scanner.preparation.engine.tried (.ofBytes bytes)) :
      IsPoint scanner refuses counter buffers
        (front.foldl (Engine.verifyMatcher (.ofBytes bytes)) stats.beginFile)
  | merging {s parts front}
      (hreached : scanner.IsReached refuses counter buffers s)
      (hdone : s.IsDone) (hparts : firstFailure (s.joined.map (·.result)) = .ok parts)
      (hfront : front <+: parts) :
      IsPoint scanner refuses counter buffers (.mergeAll front)
  | correcting {s parts stats}
      (hreached : scanner.IsReached refuses counter buffers s)
      (hdone : s.IsDone) (hparts : firstFailure (s.joined.map (·.result)) = .ok parts)
      (hcomesUp : Stats.ComesUp scanner.signatures scanner.config.container (.mergeAll parts)
        stats) :
      IsPoint scanner refuses counter buffers stats

theorem namesIn_of_isReached {s : RunState ByteArray} {t : Task ByteArray}
    (hreached : scanner.IsReached refuses counter buffers s) (ht : t ∈ s.tasks) :
    t.NamesIn scanner.preparation.engine.Seeks := by
  refine RunState.namesIn_of_reaches (Engine.namesIn_visitBuffer _) hreached ?_ t ht
  intro t ht stats hstats
  obtain ⟨worker, hworker, rfl⟩ := List.mem_mapIdx.1 ht
  cases hstats

/-- At every point of a run, who has an entry is sought by the engine. -/
theorem namesIn_of_isPoint (hpoint : scanner.IsPoint refuses counter buffers stats) :
    stats.NamesIn scanner.preparation.engine.Seeks := by
  have hmerged {s : RunState ByteArray} {parts front : List Stats}
      (hreached : scanner.IsReached refuses counter buffers s)
      (hparts : firstFailure (s.joined.map (·.result)) = .ok parts) (hfront : front ⊆ parts) :
      (Stats.mergeAll front).NamesIn scanner.preparation.engine.Seeks := by
    refine .mergeAll fun part hpart => ?_
    obtain ⟨t, ht, hstats⟩ := RunState.exists_task_of_mem_parts hparts (hfront hpart)
    exact namesIn_of_isReached hreached ht part hstats
  cases hpoint with
  | working hreached ht hstats => exact namesIn_of_isReached hreached ht stats hstats
  | scanning hreached ht hphase hitems hnonempty hsize hfront =>
      have hheld := namesIn_of_isReached hreached ht _ (by rw [hphase]; rfl)
      exact Engine.namesIn_foldl_verifyMatcher hfront.subset hheld.beginFile
  | merging hreached hdone hparts hfront => exact hmerged hreached hparts hfront.subset
  | correcting hreached hdone hparts hcomesUp =>
      exact .of_comesUp hcomesUp (hmerged hreached hparts (List.Subset.refl _))

/-- The workers of a run come to an end at which they have done what the run says. -/
theorem exists_isReached_isDone (scanner : Scanner) (refuses : Event → Bool) (counter : Nat)
    (buffers : List ByteArray) :
    ∃ s, scanner.IsReached refuses counter buffers s ∧ s.IsDone ∧
      s.joined.map (·.result) =
        scanner.results (visitBuffer scanner.config.maxFileSize) refuses buffers := by
  have hends : ∃ s, scanner.IsReached refuses counter buffers s ∧ s.IsDone :=
    RunState.exists_reaches_isDone (settles_visitBuffer scanner.config.maxFileSize).tells _
  obtain ⟨s, hreached, hdone⟩ := hends
  refine ⟨s, hreached, hdone, ?_⟩
  rw [RunState.joined_of_isDone hdone, RunState.outcomes_of_reaches hreached, outcomes_start,
    map_result_outcomes]

/-- The result of a run is one of its points. -/
theorem isPoint_of_result (hresult : (scanner.scanBuffers refuses buffers).result = .ok final)
    (counter : Nat) : scanner.IsPoint refuses counter buffers final := by
  obtain ⟨s, hreached, hdone, hjoined⟩ := scanner.exists_isReached_isDone refuses counter buffers
  rw [scanBuffers, run_result_eq, ← hjoined] at hresult
  cases hparts : firstFailure (s.joined.map (·.result)) with
  | error e =>
      rw [hparts] at hresult
      cases hresult
  | ok parts =>
      rw [hparts] at hresult
      have hfinal : scanner.total parts = final := Except.ok.inj hresult
      rw [← hfinal]
      exact .correcting hreached hdone hparts (Stats.comesUp_correct _ _ _)

end Scanner

end FormatScan
