import FormatScan.Proofs.Counts.Total
import FormatScan.Proofs.Stats.Names
import FormatScan.Proofs.Text.ByteOrder
import FormatScan.Report

/-!
# What a report accounts for

A report has the entries of the statistics that are not zero. So its summary has a line for each
name of which something has been found, embedded or not, and for no other name; the lines are in the
order of the names, and their numbers come to all that has been found.
-/

namespace FormatScan.Report

open Text.Hex (utf8)

variable {name : String} {n : Nat} {a b c : Counts} {target : String} {engine : EngineKind}

/-! ### Entries that are not zero -/

theorem get?_nonZero (c : Counts) (name : String) :
    (nonZero c).get? name = if 0 < c.count name then some (c.count name) else none := by
  rw [nonZero, Counts.get?_filter, Counts.count]
  cases c.get? name with
  | none => rfl
  | some n =>
      rcases Nat.eq_zero_or_pos n with rfl | hpos
      · rfl
      · simp [hpos]

theorem get?_nonZero_eq_some_iff :
    (nonZero c).get? name = some n ↔ c.get? name = some n ∧ 0 < n := by
  rw [nonZero, Counts.get?_filter, Option.filter_eq_some_iff, decide_eq_true_iff]

theorem count_nonZero (c : Counts) (name : String) : (nonZero c).count name = c.count name := by
  rw [Counts.count, get?_nonZero]
  by_cases hpos : 0 < c.count name
  · rw [if_pos hpos, Option.getD_some]
  · rw [if_neg hpos, Option.getD_none]
    omega

theorem mem_names_nonZero : name ∈ (nonZero c).names ↔ 0 < c.count name := by
  rw [Counts.mem_names_iff, get?_nonZero]
  split <;> simp_all

/-- Entries of zero do not show. -/
theorem nonZero_congr (hcount : ∀ name, a.count name = b.count name) : nonZero a = nonZero b := by
  apply Counts.ext_get?
  intro name
  rw [get?_nonZero, get?_nonZero, hcount]

/-! ### The lines -/

def summaryNames (r : Report) : List String := (r.detections.merge r.embedded).names

/-- The names with a line are those that were found at all, be it in other files. -/
theorem mem_summaryNames_ofStats {stats : Stats} :
    name ∈ (ofStats target engine stats).summaryNames ↔
      0 < stats.count name + stats.embeddedCount name := by
  rw [summaryNames, Counts.mem_names_merge, ofStats, mem_names_nonZero, mem_names_nonZero,
    Nat.add_pos_iff_pos_or_pos]
  rfl

/-- The numbers on the lines add up to both totals. -/
theorem sum_summaryNames (r : Report) :
    (r.summaryNames.map fun name => r.detections.count name + r.embedded.count name).sum =
      r.detections.total + r.embedded.total := by
  rw [← Counts.total_merge, ← Counts.sum_count_names, summaryNames]
  apply congrArg List.sum
  apply List.map_congr_left
  intro name _
  rw [Counts.count_merge]

/-- The number on a line is that of both counts, and the embedded ones are told apart if there are
any. -/
theorem summaryLine_ofStats (target : String) (engine : EngineKind) (stats : Stats)
    (name : String) :
    (ofStats target engine stats).summaryLine name =
      "found " ++ toString (stats.count name + stats.embeddedCount name) ++ " " ++ name ++
        if stats.embeddedCount name = 0 then ""
        else " (" ++ toString (stats.embeddedCount name) ++ " embedded)" := by
  simp only [summaryLine, ofStats, count_nonZero, Stats.count, Stats.embeddedCount]
  by_cases hzero : stats.embedded.count name = 0
  · simp only [hzero, if_true, String.append_empty]
  · simp only [hzero, if_false, String.append_assoc]

/-- A report accounts for all that has been found: a line for each name with a number, in the order
of the bytes of the names, no line without one, and numbers that come to the totals of the report,
which are those of the statistics. -/
theorem summary_accounts (target : String) (engine : EngineKind) (stats : Stats) :
    (∃ names : List String,
      names.Pairwise (fun earlier later => utf8 earlier.toList < utf8 later.toList) ∧
      (∀ name, name ∈ names ↔ 0 < stats.count name + stats.embeddedCount name) ∧
      (ofStats target engine stats).summaryLines = names.map (fun name =>
        "found " ++ toString (stats.count name + stats.embeddedCount name) ++ " " ++ name ++
          if stats.embeddedCount name = 0 then ""
          else " (" ++ toString (stats.embeddedCount name) ++ " embedded)") ∧
      (names.map fun name => stats.count name + stats.embeddedCount name).sum =
        (ofStats target engine stats).detections.total +
          (ofStats target engine stats).embedded.total) ∧
      (∀ name n, (ofStats target engine stats).detections.get? name = some n ↔
        stats.counts.get? name = some n ∧ 0 < n) ∧
      (∀ name n, (ofStats target engine stats).embedded.get? name = some n ↔
        stats.embedded.get? name = some n ∧ 0 < n) ∧
      ∀ other : Stats, (∀ name, other.count name = stats.count name) →
        (∀ name, other.embeddedCount name = stats.embeddedCount name) →
        other.filesProcessed = stats.filesProcessed →
        ofStats target engine other = ofStats target engine stats := by
  refine ⟨⟨(ofStats target engine stats).summaryNames, ?order, fun _ => mem_summaryNames_ofStats,
    ?lines, ?sum⟩, fun _ _ => get?_nonZero_eq_some_iff, fun _ _ => get?_nonZero_eq_some_iff,
    ?zeros⟩
  case order =>
    apply (Counts.pairwise_names _).imp
    intro earlier later hlt
    exact Text.lt_iff_utf8_lt.1 hlt
  case lines =>
    apply List.map_congr_left
    intro name _
    exact summaryLine_ofStats target engine stats name
  case sum =>
    rw [← sum_summaryNames]
    simp only [ofStats, count_nonZero]
    rfl
  case zeros =>
    intro other hcounts hembedded hfiles
    rw [ofStats, ofStats, nonZero_congr hcounts, nonZero_congr hembedded, hfiles]

def foundFiles : Stats :=
  { counts := .ofList [("PDF", 3), ("PNG", 1)], embedded := .ofList [("PNG", 4), ("XML", 2)],
    filesProcessed := 9 }

def foundNoArchive : Stats := { foundFiles with counts := foundFiles.counts.add "ZIP" 0 }

theorem summary_accounts_noArchive :
    (∀ name, foundNoArchive.count name = foundFiles.count name) ∧
      ofStats "/data" .twoPhase foundNoArchive = ofStats "/data" .twoPhase foundFiles ∧
      (ofStats "/data" .twoPhase foundNoArchive).detections.get? "ZIP" ≠ some 0 ∧
      (ofStats "/data" .twoPhase foundNoArchive).summaryLines =
        ["found 3 PDF", "found 5 PNG (4 embedded)", "found 2 XML (2 embedded)"] := by
  have hcounts : ∀ name, foundNoArchive.count name = foundFiles.count name := by
    intro name
    rw [Stats.count, foundNoArchive, Counts.count_add, ite_self, Nat.add_zero]
    rfl
  obtain ⟨-, -, -, hzeros⟩ := summary_accounts "/data" .twoPhase foundFiles
  obtain ⟨-, hdetections, -, -⟩ := summary_accounts "/data" .twoPhase foundNoArchive
  have hsame := hzeros foundNoArchive hcounts (fun _ => rfl) rfl
  refine ⟨hcounts, hsame, ?_, ?_⟩
  · intro hentry
    exact absurd ((hdetections _ _).1 hentry).2 (Nat.lt_irrefl 0)
  · rw [hsame]
    decide +kernel

end FormatScan.Report
