import FormatScan.Proofs.Stats.Record
import FormatScan.Run.Scanner

/-!
# What a scan records

A scan records the names of the matchers that a file satisfies, one after the other. Which names
these are depends on the bytes alone, so that nothing of the files before has a part in it.
-/

namespace FormatScan.Engine

open Regex

variable {e : Engine} {bytes : ByteArray} {name : String}

def tried (e : Engine) (h : Haystack) : List Matcher :=
  match e.kind with
  | .twoPhase => e.candidates h
  | _ => e.matchers

/-- The names of the matchers that a file satisfies, in the order in which they are tried. -/
def hits (e : Engine) (bytes : ByteArray) : List String :=
  if bytes.size = 0 then []
  else
    let h := Haystack.ofBytes bytes
    ((e.tried h).filter (·.matchesFile h)).map (·.pattern.name)

/-- Whether a name is looked up before the match or after it makes no difference. -/
theorem tryMatcher_eq_verifyMatcher (h : Haystack) : tryMatcher h = verifyMatcher h := by
  funext s m
  rw [tryMatcher, verifyMatcher, Matcher.matchesFile]
  cases m.pattern.appliesTo h.size with
  | false => rfl
  | true =>
      by_cases hmem : m.pattern.name ∈ s.detected
      · simp [hmem, Stats.recorded_of_mem hmem]
      · simp [hmem]

theorem scan_eq_foldl_verifyMatcher (e : Engine) (bytes : ByteArray) (s : Stats) :
    e.scan bytes s = if bytes.size = 0 then s
      else (e.tried (Haystack.ofBytes bytes)).foldl (verifyMatcher (Haystack.ofBytes bytes)) s := by
  simp only [scan, tried, tryMatcher_eq_verifyMatcher]
  cases e.kind <;> rfl

/-- To scan is to record the names of the hits. -/
theorem scan_eq_foldl_recorded (e : Engine) (bytes : ByteArray) (s : Stats) :
    e.scan bytes s = (e.hits bytes).foldl Stats.recorded s := by
  rw [scan_eq_foldl_verifyMatcher, hits]
  by_cases hempty : bytes.size = 0
  · rw [if_pos hempty, if_pos hempty]
    rfl
  · rw [if_neg hempty, if_neg hempty, List.foldl_map, List.foldl_filter]
    rfl

/-- In statistics of its own, a file counts once for each name that it satisfies. -/
theorem count_scan_empty :
    (e.scan bytes .empty).count name = if name ∈ e.hits bytes then 1 else 0 := by
  rw [scan_eq_foldl_recorded, Stats.count_foldl_recorded]
  simp [Stats.empty, Stats.count]

theorem isPresent_scan_empty :
    (e.scan bytes .empty).isPresent name = true ↔ name ∈ e.hits bytes := by
  rw [Stats.isPresent, count_scan_empty]
  by_cases hmem : name ∈ e.hits bytes <;> simp [hmem]

/-- What a file adds does not depend on the files before it. -/
theorem scanFile_eq_onto (e : Engine) (bytes : ByteArray) (base : Stats) :
    e.scanFile bytes base = (e.scanFile bytes .empty).onto base := by
  have hscan : e.scan bytes base.beginFile = (e.scan bytes .empty).onto base := by
    rw [← Stats.empty_onto base, scan_eq_foldl_recorded, Stats.foldl_recorded_onto,
      ← scan_eq_foldl_recorded]
  rw [scanFile, hscan, Stats.fileProcessed_onto, scanFile, Stats.beginFile_empty]

end FormatScan.Engine
