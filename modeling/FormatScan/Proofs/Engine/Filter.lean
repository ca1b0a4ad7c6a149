import FormatScan.Proofs.Engine.Agreement

/-!
# Scanning without the filter

A filter saves work and has no part in what is recorded. Each of its members stands in the place of
its matcher and matches the same, so a scan comes to the same when the filter is taken away, whether
it could be made in the first place or not. Patterns that an engine refuses leave no gap in either
row: it is as if they had not been among the patterns at all.
-/

namespace FormatScan.Engine

open Regex

variable {e : Engine} {patterns : List Pattern}

theorem tried_of_filter_eq_none (hnone : e.filter = none) (h : Haystack) :
    e.tried h = e.matchers := by
  rw [tried, candidates, hnone]
  cases e.kind <;> rfl

/-- The filter may be left out. -/
theorem scan_without_filter (e : Engine) (patterns : List Pattern) (bytes : ByteArray)
    (stats : Stats) :
    ({ (e.prepare patterns).engine with filter := none } : Engine).scan bytes stats =
      (e.prepare patterns).engine.scan bytes stats := by
  rw [scan_eq_foldl_recorded, scan_eq_foldl_recorded, hits_prepare, hits]
  simp only [tried_of_filter_eq_none]

/-- Every pattern is either active or excluded. -/
theorem active_add_length_excluded (e : Engine) (patterns : List Pattern) :
    (e.prepare patterns).report.active + (e.prepare patterns).report.excluded.length =
      patterns.length := by
  obtain ⟨hactive, hexcluded⟩ := report_prepare e patterns
  have hmatchers := congrArg List.length (map_pattern_matchers_prepare e patterns)
  have hrefused := congrArg List.length hexcluded
  rw [List.length_map, EngineKind.accepted] at hmatchers
  rw [List.length_map, List.length_map] at hrefused
  rw [hactive, hmatchers, hrefused, Nat.add_comm]
  exact (List.length_eq_length_filter_add e.kind.refuses).symm

/-- The filter of a prepared engine makes no difference. If there is one, its members match what the
matchers in the same places do, and the matchers are those of the patterns that are not refused. A
scan records the same with the filter, without it, and with an engine that has never been given the
patterns that are refused. Those that are refused are told as excluded, and every pattern is either
active or excluded. -/
theorem filter_makes_no_difference (e : Engine) (patterns : List Pattern) :
    ((e.prepare patterns).engine.filter = none ∨
      ∃ members, (e.prepare patterns).engine.filter = some members ∧
        List.Forall₂ (fun m member => ∀ h : Haystack, h.isMatch member = h.isMatch m.expr)
          (e.prepare patterns).engine.matchers members) ∧
    (e.prepare patterns).engine.matchers.map (·.pattern) = e.kind.accepted patterns ∧
    (∀ bytes stats,
      ({ (e.prepare patterns).engine with filter := none } : Engine).scan bytes stats =
          (e.prepare patterns).engine.scan bytes stats ∧
        (({ kind := e.kind } : Engine).prepare (e.kind.accepted patterns)).engine.scan bytes stats =
          (e.prepare patterns).engine.scan bytes stats) ∧
    (e.prepare patterns).report.excluded.map (·.name) =
      (patterns.filter e.kind.refuses).map (·.name) ∧
    (e.prepare patterns).report.active + (e.prepare patterns).report.excluded.length =
      patterns.length := by
  refine ⟨?_, map_pattern_matchers_prepare e patterns, ?_, (report_prepare e patterns).2,
    active_add_length_excluded e patterns⟩
  · cases hfilter : (e.prepare patterns).engine.filter with
    | none => exact Or.inl rfl
    | some members => exact Or.inr ⟨members, rfl, forall₂_filter_prepare hfilter⟩
  · intro bytes stats
    refine ⟨scan_without_filter e patterns bytes stats, ?_⟩
    apply scan_prepare_eq_of_matchers_eq
    exact matchers_prepare_accepted { kind := e.kind } patterns

def refusedFirst : List Pattern :=
  [⟨"BAD", "(", true, 3, 0⟩, ⟨"HTML", "<html", true, 2, 0⟩, ⟨"ZIP", "^PK", false, 1, 0⟩]

example : (({ kind := .twoPhase } : Engine).prepare refusedFirst).engine.filter.map List.length =
    some 2 := by
  decide +kernel

-- Inside of a group, the comment takes the end of the group with it: there is no filter.
example : (({ kind := .twoPhase } : Engine).prepare
    (refusedFirst ++ [⟨"NOTE", "(?x)note # of any kind", true, 0, 0⟩])).engine.filter = none := by
  decide +kernel

end FormatScan.Engine
