import FormatScan.Proofs.Run.Totals

/-!
# Workers and order do not matter

However the buffers are ordered and however many workers share them, a run comes to the same
statistics or to the same error.
-/

namespace FormatScan

/-- Compiles signatures and scans buffers, for someone who takes every event. -/
def scanOnce (config : ScanConfig) (signatures : List Signature) (buffers : List ByteArray) :
    Except ScanError Stats := do
  let scanner ← (Scanner.create config signatures).1
  (scanner.scanBuffers (fun _ => false) buffers).result

namespace Scanner

/-- Any number of workers but none will do. -/
theorem create_with_workers (config : ScanConfig) (signatures : List Signature) {workers : Nat}
    (hworkers : 1 ≤ workers) :
    (create { config with workers } signatures).1 =
      (create { config with workers := 1 } signatures).1.map
        fun scanner => { scanner with config := { config with workers } } := by
  have hvalid : ({ config with workers } : ScanConfig).validate =
      ({ config with workers := 1 } : ScanConfig).validate := by
    have hne : ¬workers = 0 := by omega
    simp only [ScanConfig.validate, hne, if_false, Nat.one_ne_zero]
  rw [create, create, hvalid]
  cases ({ config with workers := 1 } : ScanConfig).validate with
  | error e => rfl
  | ok =>
      simp only
      split <;> rfl

/-- The order of the parts does not matter to the total. -/
theorem total_perm (scanner : Scanner) {parts parts' : List Stats} (hperm : parts.Perm parts') :
    scanner.total parts = scanner.total parts' := by
  rw [total, total, Stats.mergeAll_perm hperm]

/-- The closed form of a run over buffers has no place for workers, and takes the buffers in any
order. -/
theorem scanBuffers_result_perm (config config' : ScanConfig) (signatures : List Signature)
    (patterns : List Pattern) (hengine : config.engine = config'.engine)
    (hlimit : config.maxFileSize = config'.maxFileSize)
    (hcontainer : config.container = config'.container) {buffers buffers' : List ByteArray}
    (hperm : buffers.Perm buffers') :
    ((Scanner.mk config signatures patterns).scanBuffers (fun _ => false) buffers).result =
      ((Scanner.mk config' signatures patterns).scanBuffers (fun _ => false) buffers').result := by
  have hpreparation : (Scanner.mk config signatures patterns).preparation =
      (Scanner.mk config' signatures patterns).preparation := by
    simp only [preparation, hengine]
  have htotal : (Scanner.mk config signatures patterns).total =
      (Scanner.mk config' signatures patterns).total := by
    funext parts
    simp only [total, hcontainer]
  have hnil : buffers ≠ [] ↔ buffers' ≠ [] := by
    rw [not_iff_not, ← List.length_eq_zero_iff, ← List.length_eq_zero_iff, hperm.length_eq]
  have haccepts : ∀ event : Event, (fun _ => false : Event → Bool) event = false := fun _ => rfl
  rw [scanBuffers, scanBuffers, run_result_of_accepts (isAdditive_visitBuffer _) haccepts,
    run_result_of_accepts (isAdditive_visitBuffer _) haccepts, hpreparation, htotal, hlimit]
  simp only [hnil]
  rw [total_perm _ (hperm.map _)]

end Scanner

/-- A run over buffers comes to the same statistics, or to the same error, for any order of the
buffers and any number of workers. -/
theorem scanOnce_eq_of_perm (config : ScanConfig) (signatures : List Signature)
    {workers workers' : Nat} (hworkers : 1 ≤ workers) (hworkers' : 1 ≤ workers')
    {buffers buffers' : List ByteArray} (hperm : buffers.Perm buffers') :
    scanOnce { config with workers } signatures buffers =
      scanOnce { config with workers := workers' } signatures buffers' := by
  rw [scanOnce, scanOnce, Scanner.create_with_workers config signatures hworkers,
    Scanner.create_with_workers config signatures hworkers']
  cases (Scanner.create { config with workers := 1 } signatures).1 with
  | error e => rfl
  | ok scanner =>
      exact Scanner.scanBuffers_result_perm { config with workers }
        { config with workers := workers' } scanner.signatures scanner.patterns rfl rfl rfl hperm

/-- One buffer is empty and one is too long, and there are more workers than buffers. -/
theorem scanOnce_three_buffers :
    1 ≤ 1 ∧ 1 ≤ 7 ∧
      [ByteArray.mk #[80, 75], ⟨#[]⟩, ⟨#[37, 80, 68, 70]⟩].Perm
        [⟨#[37, 80, 68, 70]⟩, ⟨#[80, 75]⟩, ⟨#[]⟩] ∧
      scanOnce { engine := .backtrack, workers := 1, maxFileSize := 3 }
          [.binary "ZIP" "504B", .text "HTML" "(unclosed"]
          [⟨#[80, 75]⟩, ⟨#[]⟩, ⟨#[37, 80, 68, 70]⟩] =
        scanOnce { engine := .backtrack, workers := 7, maxFileSize := 3 }
          [.binary "ZIP" "504B", .text "HTML" "(unclosed"]
          [⟨#[37, 80, 68, 70]⟩, ⟨#[80, 75]⟩, ⟨#[]⟩] := by
  have hperm : [ByteArray.mk #[80, 75], ⟨#[]⟩, ⟨#[37, 80, 68, 70]⟩].Perm
      [⟨#[37, 80, 68, 70]⟩, ⟨#[80, 75]⟩, ⟨#[]⟩] := by decide
  exact ⟨by decide, by decide, hperm,
    scanOnce_eq_of_perm { engine := .backtrack, workers := 1, maxFileSize := 3 }
      [.binary "ZIP" "504B", .text "HTML" "(unclosed"] (by decide) (by decide) hperm⟩

end FormatScan
