import FormatScan.Proofs.Run.Totals

/-!
# Counts before the correction

Before it is corrected, the count of a name is the number of buffers that are detected as the name.
-/

namespace FormatScan

variable {scanner : Scanner} {name : String}

namespace Scanner

/-- Whether a run detects a buffer as a name: the buffer is not too long, and a scan finds it. -/
def detects (scanner : Scanner) (bytes : ByteArray) (name : String) : Bool :=
  decide (bytes.size ≤ scanner.config.maxFileSize) &&
    (scanner.preparation.engine.scan bytes .empty).isPresent name

theorem count_share (scanner : Scanner) (bytes : ByteArray) (name : String) :
    (share (visitBuffer scanner.config.maxFileSize) scanner.preparation.engine bytes).count name =
      if scanner.detects bytes name = true then 1 else 0 := by
  have hscan : (scanner.preparation.engine.scan bytes .empty).count name =
      if (scanner.preparation.engine.scan bytes .empty).isPresent name = true then 1 else 0 := by
    rw [Engine.count_scan_empty]
    simp only [Engine.isPresent_scan_empty]
  by_cases hempty : bytes.size = 0
  · simp [share, visitBuffer, detects, Engine.scan, hempty, Stats.isPresent, Stats.count,
      Stats.fileProcessed, Stats.empty]
  · by_cases hlimit : scanner.config.maxFileSize < bytes.size
    · have hlong : ¬bytes.size ≤ scanner.config.maxFileSize := by omega
      simp only [share, visitBuffer, detects, hempty, hlimit, hlong, if_true, if_false,
        decide_false, Bool.false_and]
      rfl
    · have hshort : bytes.size ≤ scanner.config.maxFileSize := by omega
      simp only [share, visitBuffer, detects, hempty, hlimit, hshort, if_false, decide_true,
        Bool.true_and]
      exact hscan

def hits (scanner : Scanner) (buffers : List ByteArray) (name : String) : Nat :=
  buffers.countP (scanner.detects · name)

/-- The counts of buffers add up to the number of hits. -/
theorem count_mergeAll_share (scanner : Scanner) (buffers : List ByteArray) (name : String) :
    (Stats.mergeAll (buffers.map
      (share (visitBuffer scanner.config.maxFileSize) scanner.preparation.engine))).count name =
        scanner.hits buffers name := by
  rw [Stats.count_mergeAll, List.map_map, hits]
  induction buffers with
  | nil => rfl
  | cons bytes rest ih =>
      rw [List.map_cons, List.sum_cons, ih, Function.comp_apply, count_share, List.countP_cons,
        Nat.add_comm]

end Scanner

end FormatScan
