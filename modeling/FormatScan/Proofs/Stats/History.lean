import FormatScan.Proofs.Stats.Record
import Mathlib.Data.List.DropRight

/-!
# What statistics tell of their history

Statistics are brought about by four kinds of steps. A new file and a reset end a segment of their
history, within which a name counts once. So behind any steps a count is the number of segments
since the last reset that have recorded the name.
-/

namespace FormatScan.Stats

inductive Step where
  | beginFile
  | record (name : String)
  | fileProcessed
  | resetAll
deriving DecidableEq

def Step.isBoundary (step : Step) : Bool := step = .beginFile ∨ step = .resetAll

def step (s : Stats) : Step → Stats
  | .beginFile => s.beginFile
  | .record name => s.recorded name
  | .fileProcessed => s.fileProcessed
  | .resetAll => s.resetAll

def after (steps : List Step) : Stats := steps.foldl step empty

/-! ### Segments -/

/-- The steps between the boundaries. -/
def segments (steps : List Step) : List (List Step) := steps.splitOnP Step.isBoundary

def lastSegment (steps : List Step) : List Step := steps.rtakeWhile fun step => !step.isBoundary

def sinceReset (steps : List Step) : List Step := steps.rtakeWhile fun step => step ≠ .resetAll

variable {steps more : List Step} {last : Step} {s : Stats} {name : String}

theorem lastSegment_concat (steps : List Step) (last : Step) :
    lastSegment (steps ++ [last]) =
      if last.isBoundary then [] else lastSegment steps ++ [last] := by
  rw [lastSegment, List.rtakeWhile_concat]
  cases last.isBoundary <;> rfl

theorem sinceReset_concat (steps : List Step) (last : Step) :
    sinceReset (steps ++ [last]) = if last = .resetAll then [] else sinceReset steps ++ [last] := by
  rw [sinceReset, List.rtakeWhile_concat]
  by_cases hreset : last = .resetAll <;> simp [hreset, sinceReset]

/-- A reset is a boundary, too. -/
theorem lastSegment_sinceReset (steps : List Step) :
    lastSegment (sinceReset steps) = lastSegment steps := by
  induction steps using List.reverseRecOn with
  | nil => rfl
  | append_singleton steps last ih =>
      rw [sinceReset_concat, lastSegment_concat]
      by_cases hreset : last = .resetAll
      · rw [if_pos hreset, hreset]
        rfl
      · rw [if_neg hreset, lastSegment_concat, ih]

/-- Steps that are no boundaries go on with the last segment. -/
theorem exists_segments_append (steps : List Step) :
    ∃ earlier, ∀ more : List Step, (∀ step ∈ more, step.isBoundary = false) →
      segments (steps ++ more) = earlier ++ [lastSegment steps ++ more] := by
  induction steps using List.reverseRecOn with
  | nil => exact ⟨[], fun more hmore => List.splitOnP_eq_singleton hmore⟩
  | append_singleton steps last ih =>
      simp only [List.append_assoc, List.singleton_append, lastSegment_concat]
      cases hlast : last.isBoundary with
      | true =>
          refine ⟨segments steps, fun more hmore => ?_⟩
          rw [segments, List.splitOnP_append_cons _ _ hlast, List.splitOnP_eq_singleton hmore]
          rfl
      | false =>
          obtain ⟨earlier, hearlier⟩ := ih
          refine ⟨earlier, fun more hmore => ?_⟩
          rw [hearlier _ (List.forall_mem_cons.2 ⟨hlast, hmore⟩)]
          simp

theorem lastSegment_mem_segments (steps : List Step) : lastSegment steps ∈ segments steps := by
  obtain ⟨earlier, hearlier⟩ := exists_segments_append steps
  have hsegments := hearlier [] (List.forall_mem_nil _)
  rw [List.append_nil, List.append_nil] at hsegments
  rw [hsegments]
  exact List.mem_append_right _ (List.mem_singleton_self _)

def recordings (name : String) (steps : List Step) : Nat :=
  (segments steps).countP (Step.record name ∈ ·)

theorem recordings_concat_of_isBoundary (hlast : last.isBoundary = true) :
    recordings name (steps ++ [last]) = recordings name steps := by
  rw [recordings, segments, List.splitOnP_append_cons _ _ hlast, List.countP_append]
  rfl

/-- A segment counts when the name is recorded in it for the first time. -/
theorem recordings_concat (hlast : last.isBoundary = false) :
    recordings name (steps ++ [last]) =
      recordings name steps +
        if last = .record name ∧ .record name ∉ lastSegment steps then 1 else 0 := by
  obtain ⟨earlier, hearlier⟩ := exists_segments_append steps
  have hbefore := hearlier [] (List.forall_mem_nil _)
  have hafter := hearlier [last] (List.forall_mem_singleton.2 hlast)
  rw [List.append_nil, List.append_nil] at hbefore
  rw [recordings, recordings, hbefore, hafter, List.countP_append, List.countP_append]
  by_cases hname : last = .record name
  · by_cases hmem : Step.record name ∈ lastSegment steps <;> simp [hname, hmem]
  · have hother : Step.record name ∈ lastSegment steps ++ [last] ↔
        Step.record name ∈ lastSegment steps := by
      simp [Ne.symm hname]
    simp [hname, hother]

/-! ### The invariant -/

/-- What statistics tell of the steps that have brought them about. -/
structure Tells (steps : List Step) (s : Stats) : Prop where
  count (name : String) : s.count name = recordings name (sinceReset steps)
  mem_detected (name : String) : name ∈ s.detected ↔ .record name ∈ lastSegment steps
  filesProcessed : s.filesProcessed = (sinceReset steps).count .fileProcessed
  embedded : s.embedded = ∅

namespace Tells

theorem empty : Tells [] Stats.empty where
  count _ := rfl
  mem_detected _ := iff_of_false List.not_mem_nil List.not_mem_nil
  filesProcessed := rfl
  embedded := rfl

theorem beginFile (htells : Tells steps s) : Tells (steps ++ [.beginFile]) s.beginFile where
  count name := by
    rw [sinceReset_concat, if_neg Step.noConfusion, recordings_concat_of_isBoundary rfl]
    exact htells.count name
  mem_detected name := by
    rw [lastSegment_concat]
    exact iff_of_false List.not_mem_nil List.not_mem_nil
  filesProcessed := by
    rw [sinceReset_concat, if_neg Step.noConfusion, List.count_append]
    exact htells.filesProcessed
  embedded := htells.embedded

theorem resetAll (s : Stats) (steps : List Step) : Tells (steps ++ [.resetAll]) s.resetAll where
  count name := by
    rw [sinceReset_concat, if_pos rfl]
    rfl
  mem_detected name := by
    rw [lastSegment_concat]
    exact iff_of_false List.not_mem_nil List.not_mem_nil
  filesProcessed := by
    rw [sinceReset_concat, if_pos rfl]
    rfl
  embedded := rfl

theorem fileProcessed (htells : Tells steps s) :
    Tells (steps ++ [.fileProcessed]) s.fileProcessed where
  count name := by
    rw [sinceReset_concat, if_neg Step.noConfusion, recordings_concat rfl,
      if_neg fun h => Step.noConfusion h.1]
    exact htells.count name
  mem_detected name := by
    rw [lastSegment_concat, show s.fileProcessed.detected = s.detected from rfl,
      htells.mem_detected]
    simp [Step.isBoundary]
  filesProcessed := by
    rw [sinceReset_concat, if_neg Step.noConfusion, List.count_append, ← htells.filesProcessed]
    rfl
  embedded := htells.embedded

/-- Recording a name counts it unless the segment has it already. -/
theorem record (htells : Tells steps s) (name : String) :
    Tells (steps ++ [.record name]) (s.recorded name) := by
  have hshows := shows_recorded s name
  refine ⟨?count, ?mem_detected, ?filesProcessed, hshows.embedded.trans htells.embedded⟩
  case count =>
    intro other
    have hsince : sinceReset (steps ++ [.record name]) = sinceReset steps ++ [.record name] := by
      rw [sinceReset_concat, if_neg Step.noConfusion]
    rw [hshows.count, htells.count, hsince, recordings_concat rfl, lastSegment_sinceReset]
    simp only [htells.mem_detected, List.mem_singleton, Step.record.injEq, eq_comm]
  case mem_detected =>
    intro other
    rw [hshows.mem_detected, htells.mem_detected, lastSegment_concat]
    simp [Step.isBoundary]
  case filesProcessed =>
    rw [hshows.filesProcessed, sinceReset_concat, if_neg Step.noConfusion, List.count_append,
      htells.filesProcessed]
    rfl

/-- A step keeps statistics telling of all the steps. -/
theorem step (htells : Tells steps s) (last : Step) : Tells (steps ++ [last]) (s.step last) := by
  cases last with
  | beginFile => exact htells.beginFile
  | record name => exact htells.record name
  | fileProcessed => exact htells.fileProcessed
  | resetAll => exact resetAll s steps

end Tells

/-- Statistics tell their whole history, by induction over the steps. -/
theorem tells_after (steps : List Step) : Tells steps (after steps) := by
  induction steps using List.reverseRecOn with
  | nil => exact .empty
  | append_singleton steps last ih =>
      rw [after, List.foldl_concat]
      exact ih.step last

theorem recordings_pos (hmem : .record name ∈ lastSegment steps) : 1 ≤ recordings name steps :=
  List.countP_pos_iff.2 ⟨_, lastSegment_mem_segments steps, decide_eq_true hmem⟩

/-- A count is the number of segments since the last reset that have recorded the name. The answer
to a record is whether it is the first one of the name in its segment, which is the one that is
counted. -/
theorem after_counts_recorded_segments (steps : List Step) :
    (∀ name, (after steps).count name = recordings name (sinceReset steps)) ∧
      (∀ name, ((after steps).record name).1 = true ↔ .record name ∉ lastSegment steps) ∧
      (after steps).filesProcessed = (sinceReset steps).count .fileProcessed ∧
      (after steps).embedded = ∅ ∧
      ∀ name ∈ (after steps).detected, 1 ≤ (after steps).count name := by
  have htells := tells_after steps
  refine ⟨htells.count, ?answer, htells.filesProcessed, htells.embedded, ?detected⟩
  case answer =>
    intro name
    rw [fst_record_iff, htells.mem_detected]
  case detected =>
    intro name hname
    rw [htells.count]
    apply recordings_pos
    rw [lastSegment_sinceReset, ← htells.mem_detected]
    exact hname

def twoFiles : List Step :=
  [.record "PDF", .resetAll, .record "PNG", .record "PNG", .fileProcessed, .beginFile,
    .record "PNG", .fileProcessed]

theorem after_counts_recorded_segments_twoFiles :
    "PNG" ∈ (after twoFiles).detected ∧
      1 ≤ (after twoFiles).count "PNG" ∧
      (after twoFiles).count "PNG" = 2 ∧
      (after twoFiles).count "PDF" = 0 ∧
      ((after twoFiles).record "PNG").1 = false := by
  obtain ⟨hcount, hanswer, -, -, hpos⟩ := after_counts_recorded_segments twoFiles
  have hmem : "PNG" ∈ (after twoFiles).detected := by decide +kernel
  refine ⟨hmem, hpos _ hmem, ?_, ?_, ?_⟩
  · rw [hcount]
    decide +kernel
  · rw [hcount]
    decide +kernel
  · rw [← Bool.not_eq_true, hanswer, not_not]
    decide +kernel

end FormatScan.Stats
