import FormatScan.Proofs.Engine.Candidates

/-!
# The kinds of engines agree

The engines go about a file in different ways, but what they record is the same for the same
matchers. An engine that limits the size of its patterns refuses every pattern that the other one
refuses, so that the two have the same matchers as soon as they refuse the same names.
-/

namespace FormatScan

open Regex

variable {kind kind' : EngineKind} {patterns : List Pattern} {p : Pattern}

def EngineKind.refuses (kind : EngineKind) (p : Pattern) : Bool :=
  (Matcher.ofPattern kind p).toOption.isNone

def EngineKind.accepted (kind : EngineKind) (patterns : List Pattern) : List Pattern :=
  patterns.filter fun p => !kind.refuses p

namespace Matcher

theorem refuses_of_ofPattern_eq_ok {m : Matcher} (hmade : ofPattern kind p = .ok m) :
    kind.refuses p = false := by
  rw [EngineKind.refuses, hmade]
  rfl

theorem refuses_of_ofPattern_eq_error {exclusion : Exclusion}
    (hmade : ofPattern kind p = .error exclusion) : kind.refuses p = true := by
  rw [EngineKind.refuses, hmade]
  rfl

/-- The kind of the engine decides whether there is a matcher, and not which one it is. -/
theorem toOption_ofPattern (hrefuses : kind.refuses p = kind'.refuses p) :
    (ofPattern kind p).toOption = (ofPattern kind' p).toOption := by
  cases hmade : ofPattern kind p with
  | error exclusion =>
      rw [EngineKind.refuses, EngineKind.refuses, hmade] at hrefuses
      exact (Option.isNone_iff_eq_none.1 hrefuses.symm).symm
  | ok m =>
      cases hmade' : ofPattern kind' p with
      | error exclusion =>
          rw [EngineKind.refuses, EngineKind.refuses, hmade, hmade'] at hrefuses
          cases hrefuses
      | ok m' =>
          obtain ⟨hpattern, hexpr⟩ := ofPattern_eq_ok hmade
          obtain ⟨hpattern', hexpr'⟩ := ofPattern_eq_ok hmade'
          rw [hexpr] at hexpr'
          have heq : m = m' := by
            cases m
            cases m'
            rw [Matcher.mk.injEq]
            exact ⟨hpattern.trans hpattern'.symm, Except.ok.inj hexpr'⟩
          rw [heq]

/-- The engine that limits the size refuses most. -/
theorem refuses_twoPhase_of_refuses (hrefuses : kind.refuses p = true) :
    EngineKind.refuses .twoPhase p = true := by
  by_cases htwoPhase : kind = .twoPhase
  · rwa [htwoPhase] at hrefuses
  · rw [EngineKind.refuses, ofPattern] at hrefuses ⊢
    split at hrefuses
    · rfl
    · simp [htwoPhase, Except.toOption] at hrefuses

theorem name_of_ofPattern_eq_error {exclusion : Exclusion}
    (hmade : ofPattern kind p = .error exclusion) : exclusion.name = p.name := by
  rw [ofPattern] at hmade
  split at hmade
  · split at hmade <;> cases hmade <;> rfl
  · split at hmade
    · cases hmade
      rfl
    · cases hmade

end Matcher

namespace Engine

/-- The names that an engine tells of are those of the patterns that it refuses, in their order. -/
theorem excludedNames_eq (kind : EngineKind) (patterns : List Pattern) :
    ((patterns.map (Matcher.ofPattern kind)).filterMap fun
      | .error exclusion => some exclusion
      | .ok _ => none).map (·.name) = (patterns.filter kind.refuses).map (·.name) := by
  induction patterns with
  | nil => rfl
  | cons p rest ih =>
      rw [List.map_cons, List.filterMap_cons, List.filter_cons, EngineKind.refuses]
      cases hmade : Matcher.ofPattern kind p with
      | error exclusion =>
          simp only [Except.toOption, Option.isNone_none, if_true, List.map_cons, ih,
            Matcher.name_of_ofPattern_eq_error hmade]
      | ok m => exact ih

/-- The report counts the matchers and names the patterns that were refused. -/
theorem report_prepare (e : Engine) (patterns : List Pattern) :
    (e.prepare patterns).report.active = (e.prepare patterns).engine.matchers.length ∧
      (e.prepare patterns).report.excluded.map (·.name) =
        (patterns.filter e.kind.refuses).map (·.name) := by
  rw [prepare]
  split
  · split
    · exact ⟨rfl, excludedNames_eq e.kind patterns⟩
    · exact ⟨rfl, excludedNames_eq e.kind patterns⟩
  · exact ⟨rfl, excludedNames_eq e.kind patterns⟩

theorem refuses_eq_of_excluded_eq
    (hexcluded : (({ kind := .backtrack } : Engine).prepare patterns).report.excluded.map (·.name) =
      (({ kind := .twoPhase } : Engine).prepare patterns).report.excluded.map (·.name))
    (hmem : p ∈ patterns) : EngineKind.refuses .backtrack p = EngineKind.refuses .twoPhase p := by
  rw [(report_prepare _ _).2, (report_prepare _ _).2] at hexcluded
  have hlength : (patterns.filter (EngineKind.refuses .backtrack)).length =
      (patterns.filter (EngineKind.refuses .twoPhase)).length := by
    have hcount := congrArg List.length hexcluded
    rwa [List.length_map, List.length_map] at hcount
  have hfilter : patterns.filter (EngineKind.refuses .backtrack) =
      patterns.filter (EngineKind.refuses .twoPhase) :=
    (List.monotone_filter_right patterns fun _ => Matcher.refuses_twoPhase_of_refuses).eq_of_length
      hlength
  have hiff := congrArg (p ∈ ·) hfilter
  simp only [List.mem_filter, hmem, true_and, eq_iff_iff] at hiff
  rwa [Bool.eq_iff_iff]

/-- There is a matcher for each pattern that is not refused, in the order of the patterns. -/
theorem map_pattern_matchers_prepare (e : Engine) (patterns : List Pattern) :
    (e.prepare patterns).engine.matchers.map (·.pattern) = e.kind.accepted patterns := by
  rw [matchers_prepare, EngineKind.accepted]
  induction patterns with
  | nil => rfl
  | cons p rest ih =>
      rw [List.map_cons, List.filterMap_cons, List.filter_cons]
      cases hmade : Matcher.ofPattern e.kind p with
      | error exclusion =>
          rw [Matcher.refuses_of_ofPattern_eq_error hmade]
          exact ih
      | ok m =>
          rw [Matcher.refuses_of_ofPattern_eq_ok hmade]
          exact congrArg₂ List.cons (Matcher.ofPattern_eq_ok hmade).1 ih

/-- Patterns that are refused take no part in what becomes of the others. -/
theorem matchers_prepare_accepted (e : Engine) (patterns : List Pattern) :
    (e.prepare (e.kind.accepted patterns)).engine.matchers =
      (e.prepare patterns).engine.matchers := by
  rw [matchers_prepare, matchers_prepare, List.filterMap_map, List.filterMap_map,
    EngineKind.accepted, List.filterMap_filter]
  apply List.filterMap_congr
  intro p _
  cases hmade : Matcher.ofPattern e.kind p with
  | error exclusion => simp [Matcher.refuses_of_ofPattern_eq_error hmade, hmade, Except.toOption]
  | ok m => simp [Matcher.refuses_of_ofPattern_eq_ok hmade]

theorem matchers_prepare_eq_of_refuses_eq
    (hrefuses : ∀ p ∈ patterns, kind.refuses p = kind'.refuses p) :
    (({ kind } : Engine).prepare patterns).engine.matchers =
      (({ kind := kind' } : Engine).prepare patterns).engine.matchers := by
  rw [matchers_prepare, matchers_prepare, List.filterMap_map, List.filterMap_map]
  exact List.filterMap_congr fun p hp => Matcher.toOption_ofPattern (hrefuses p hp)

/-- Prepared engines with the same matchers record the same, whatever their filters. -/
theorem scan_prepare_eq_of_matchers_eq {e e' : Engine} {patterns patterns' : List Pattern}
    (hmatchers : (e.prepare patterns).engine.matchers = (e'.prepare patterns').engine.matchers)
    (bytes : ByteArray) (stats : Stats) :
    (e.prepare patterns).engine.scan bytes stats =
      (e'.prepare patterns').engine.scan bytes stats := by
  rw [scan_eq_foldl_recorded, scan_eq_foldl_recorded, hits_prepare, hits_prepare, hmatchers]

/-- Engines of two kinds that refuse the same of some patterns find the same. -/
theorem scan_prepare_eq_of_refuses_eq
    (hrefuses : ∀ p ∈ patterns, kind.refuses p = kind'.refuses p) (bytes : ByteArray)
    (stats : Stats) : (({ kind } : Engine).prepare patterns).engine.scan bytes stats =
      (({ kind := kind' } : Engine).prepare patterns).engine.scan bytes stats :=
  scan_prepare_eq_of_matchers_eq (matchers_prepare_eq_of_refuses_eq hrefuses) bytes stats

/-! ### Sequences of steps -/

inductive Step where
  | beginFile
  | scan (bytes : ByteArray)

def follow (e : Engine) (stats : Stats) : Step → Stats
  | .beginFile => stats.beginFile
  | .scan bytes => e.scan bytes stats

def followAll (e : Engine) (stats : Stats) (steps : List Step) : Stats :=
  steps.foldl e.follow stats

theorem followAll_eq_of_scan_eq {e e' : Engine}
    (hscan : ∀ bytes stats, e.scan bytes stats = e'.scan bytes stats) (stats : Stats)
    (steps : List Step) : e.followAll stats steps = e'.followAll stats steps := by
  have hfollow : e.follow = e'.follow := by
    funext stats step
    cases step with
    | beginFile => rfl
    | scan bytes => exact hscan bytes stats
  rw [followAll, followAll, hfollow]

end Engine

end FormatScan
