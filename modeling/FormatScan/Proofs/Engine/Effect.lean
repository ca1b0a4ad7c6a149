import FormatScan.Proofs.Engine.Agreement
import FormatScan.Proofs.Stats.Width

/-!
# What a scan changes

A file shows the names of the patterns in use that it satisfies and that it is long enough for. A
scan counts each of them that the file has not shown before, and it counts it once, however many
patterns have the name and however often the file satisfies them. Nothing else changes, so a second
scan of the same file changes nothing at all.
-/

namespace FormatScan

open Regex

variable {kind : EngineKind} {patterns : List Pattern} {p : Pattern} {m : Matcher}
  {bytes : ByteArray} {e : Engine} {s after : Stats}

def Pattern.accepts (p : Pattern) (bytes : ByteArray) : Bool :=
  match Expr.ofPattern (.start p.caseless) p.expression with
  | .ok expr => (Haystack.ofBytes bytes).isMatch expr
  | .error _ => false

/-- The names that a file shows an engine of a kind. An empty file shows none. -/
def EngineKind.shown (kind : EngineKind) (patterns : List Pattern) (bytes : ByteArray) :
    List String :=
  if bytes.size = 0 then []
  else ((kind.accepted patterns).filter fun p =>
    p.minFileSize.toNat ≤ bytes.size ∧ p.accepts bytes = true).map (·.name)

theorem Matcher.matchesFile_ofBytes (hmade : Matcher.ofPattern kind p = .ok m) :
    m.matchesFile (Haystack.ofBytes bytes) =
      decide (m.pattern.minFileSize.toNat ≤ bytes.size ∧ m.pattern.accepts bytes = true) := by
  obtain ⟨hpattern, hexpr⟩ := Matcher.ofPattern_eq_ok hmade
  rw [matchesFile, Pattern.appliesTo, Pattern.accepts, hpattern, hexpr, Bool.decide_and,
    Bool.decide_eq_true]
  rfl

namespace Engine

/-- What a scan hits is told by the patterns alone. -/
theorem hits_prepare_eq_shown (e : Engine) (patterns : List Pattern) (bytes : ByteArray) :
    (e.prepare patterns).engine.hits bytes = e.kind.shown patterns bytes := by
  have hmatches : (e.prepare patterns).engine.matchers.filter
      (·.matchesFile (Haystack.ofBytes bytes)) =
        (e.prepare patterns).engine.matchers.filter fun m =>
          m.pattern.minFileSize.toNat ≤ bytes.size ∧ m.pattern.accepts bytes = true := by
    apply List.filter_congr
    intro m hm
    obtain ⟨p, -, hmade⟩ := mem_matchers_prepare.1 hm
    exact Matcher.matchesFile_ofBytes hmade
  rw [hits_prepare, hmatches, EngineKind.shown, ← map_pattern_matchers_prepare, List.filter_map,
    List.map_map]
  rfl

/-! ### Counts that have to be kept -/

theorem scan?_eq_foldlM (e : Engine) (bytes : ByteArray) (s : Stats) :
    e.scan? bytes s = if bytes.size = 0 then some s
      else (e.tried (Haystack.ofBytes bytes)).foldlM
        (fun s m => (verifyMatcher (Haystack.ofBytes bytes) s m).fit?) s := by
  simp only [scan?, tried, tryMatcher_eq_verifyMatcher]
  cases e.kind <;> rfl

theorem fits_of_fits_verifyMatcher {h : Haystack}
    (hfits : (verifyMatcher h s m).Fits) : s.Fits := by
  unfold verifyMatcher at hfits
  split at hfits
  · have hshows := Stats.shows_recorded s m.pattern.name
    refine hfits.of_le (fun name => ?_) (fun name => ?_) (Nat.le_of_eq hshows.filesProcessed.symm)
    · rw [hshows.count]
      exact Nat.le_add_right _ _
    · exact Nat.le_of_eq (congrArg (·.count name) hshows.embedded.symm)
  · exact hfits

/-- A scan that checks its counts answers what one without checks leads to, if that can be kept. -/
theorem scan?_eq_some_iff (hfits : s.Fits) :
    e.scan? bytes s = some after ↔ after = e.scan bytes s ∧ after.Fits := by
  rw [scan?_eq_foldlM, scan_eq_foldl_verifyMatcher]
  by_cases hempty : bytes.size = 0
  · rw [if_pos hempty, if_pos hempty, Option.some_inj]
    exact hfits.eq_iff
  · rw [if_neg hempty, if_neg hempty]
    exact Stats.foldlM_fit?_eq_some_iff (fun _ => True) (fun _ _ _ => trivial)
      (fun _ _ _ => fits_of_fits_verifyMatcher) trivial hfits

/-- A scan counts what a file shows and leaves the rest. -/
theorem shows_scan_prepare (e : Engine) (patterns : List Pattern) (bytes : ByteArray) (s : Stats) :
    Stats.Shows (e.kind.shown patterns bytes) s ((e.prepare patterns).engine.scan bytes s) := by
  rw [scan_eq_foldl_recorded, hits_prepare_eq_shown]
  exact Stats.shows_foldl_recorded _ s

/-- A second scan of a file finds nothing new. -/
theorem scan_scan (e : Engine) (bytes : ByteArray) (s : Stats) :
    e.scan bytes (e.scan bytes s) = e.scan bytes s := by
  rw [scan_eq_foldl_recorded, scan_eq_foldl_recorded, Stats.foldl_recorded_foldl_recorded]

/-- A scan counts the names that the file shows, each of them once at most, and changes nothing
else; the second time it changes nothing. It fails only if a count is as great as can be and would
have to be greater. -/
theorem scan_counts_once (e : Engine) (patterns : List Pattern) (bytes : ByteArray)
    (hfits : s.Fits) :
    ((∃ after, (e.prepare patterns).engine.scan? bytes s = some after) ↔
        ∀ name ∈ e.kind.shown patterns bytes, name ∉ s.detected →
          s.count name + 1 < Counts.limit) ∧
      ∀ after, (e.prepare patterns).engine.scan? bytes s = some after →
        after = (e.prepare patterns).engine.scan bytes s ∧
          Stats.Shows (e.kind.shown patterns bytes) s after ∧
          (e.prepare patterns).engine.scan? bytes after = some after := by
  have hshows := shows_scan_prepare e patterns bytes s
  constructor
  · simp only [scan?_eq_some_iff hfits, exists_eq_left]
    exact hshows.fits_iff hfits
  · intro after hscan
    obtain ⟨rfl, hafter⟩ := (scan?_eq_some_iff hfits).1 hscan
    exact ⟨rfl, hshows, (scan?_eq_some_iff hafter).2 ⟨(scan_scan _ bytes s).symm, hafter⟩⟩

def zips : List Pattern :=
  [⟨"ZIP", "PK", false, 1, 0⟩, ⟨"ZIP", "P", false, 0, 3⟩]

def manyZips : Stats := { counts := .ofList [("ZIP", Counts.limit - 2)] }

/-- The name is shown twice and counted once, and a further file is one too many. -/
theorem scan_counts_once_zips :
    manyZips.Fits ∧ EngineKind.backtrack.shown zips "PKPK".toUTF8 = ["ZIP", "ZIP"] ∧
      (∃ after, (({ kind := .backtrack } : Engine).prepare zips).engine.scan? "PKPK".toUTF8
        manyZips = some after ∧ after.count "ZIP" = Counts.limit - 1) ∧
      ¬∃ after, (({ kind := .backtrack } : Engine).prepare zips).engine.scan? "PKPK".toUTF8
        (manyZips.recorded "ZIP").beginFile = some after := by
  have hfits : manyZips.Fits := by decide +kernel
  have hfull : (manyZips.recorded "ZIP").beginFile.Fits := by decide +kernel
  have hshown : EngineKind.backtrack.shown zips "PKPK".toUTF8 = ["ZIP", "ZIP"] := by
    decide +kernel
  obtain ⟨hroom, hscan⟩ := scan_counts_once { kind := .backtrack } zips "PKPK".toUTF8 hfits
  obtain ⟨hnoRoom, -⟩ := scan_counts_once { kind := .backtrack } zips "PKPK".toUTF8 hfull
  refine ⟨hfits, hshown, ?_, ?_⟩
  · obtain ⟨after, hafter⟩ := hroom.2 (by rw [hshown]; decide +kernel)
    obtain ⟨-, hshows, -⟩ := hscan after hafter
    refine ⟨after, hafter, ?_⟩
    rw [hshows.count, hshown]
    decide +kernel
  · rw [hnoRoom, hshown]
    decide +kernel

end Engine

end FormatScan
