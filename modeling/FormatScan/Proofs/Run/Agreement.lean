import FormatScan.Proofs.Engine.Agreement
import FormatScan.Proofs.Run.Totals

/-!
# Runs with either kind of engine

A run uses its engine to scan and to tell of the patterns that were refused. If the two kinds refuse
the same patterns and nobody breaks down over one kind's warnings alone, a run comes to the same
with either of them.
-/

namespace FormatScan

variable {refuses : Event → Bool}

def Preparation.excludedNames (p : Preparation) : List String := p.report.excluded.map (·.name)

def Preparation.isRefused (p : Preparation) (refuses : Event → Bool) : Bool :=
  (p.report.events p.engine.kind).any refuses

/-- Compiles signatures and scans buffers, for somebody who may refuse events. -/
def scanRefusing (config : ScanConfig) (signatures : List Signature) (refuses : Event → Bool)
    (buffers : List ByteArray) : Except ScanError Stats := do
  let scanner ← (Scanner.create config signatures).1
  (scanner.scanBuffers refuses buffers).result

namespace Worker

theorem visitAll_congr {α : Type} {visit : Visit α} {e e' : Engine} (hvisit : visit e = visit e')
    (worker first : Nat) (stats : Stats) (items : List α) :
    visitAll visit refuses worker e first stats items =
      visitAll visit refuses worker e' first stats items := by
  induction items generalizing first stats with
  | nil => rfl
  | cons item rest ih =>
      rw [visitAll, visitAll, hvisit]
      simp only [ih]

/-- Of the preparation, the result of a worker depends on three things. -/
theorem run_result_congr {p p' : Preparation} (limit : Nat)
    (hscan : ∀ bytes stats, p.engine.scan bytes stats = p'.engine.scan bytes stats)
    (hactive : p.report.active = p'.report.active)
    (hrefused : p.isRefused refuses = p'.isRefused refuses) (worker first : Nat)
    (buffers : List ByteArray) :
    (run (visitBuffer limit) refuses p worker first buffers).result =
      (run (visitBuffer limit) refuses p' worker first buffers).result := by
  have hvisit : visitBuffer limit p.engine = visitBuffer limit p'.engine := by
    funext index bytes stats
    simp only [visitBuffer, Engine.scanFile, hscan]
  have htold : (if worker = 0 then p.report.events p.engine.kind else []).any refuses =
      (if worker = 0 then p'.report.events p'.engine.kind else []).any refuses := by
    split
    · exact hrefused
    · rfl
  simp only [run, hactive, visitAll_congr hvisit]
  generalize (if worker = 0 then p.report.events p.engine.kind else []) = told at htold ⊢
  generalize (if worker = 0 then p'.report.events p'.engine.kind else []) = told' at htold ⊢
  rw [htold]
  split
  · rfl
  · split <;> rfl

end Worker

namespace Scanner

/-- A run depends on an engine by what it finds, by whether it has patterns and by the warnings that
somebody refuses. -/
theorem scanBuffers_result_congr (scanner scanner' : Scanner)
    (hworkers : scanner.config.workers = scanner'.config.workers)
    (hlimit : scanner.config.maxFileSize = scanner'.config.maxFileSize)
    (htotal : scanner.total = scanner'.total)
    (hscan : ∀ bytes stats, scanner.preparation.engine.scan bytes stats =
      scanner'.preparation.engine.scan bytes stats)
    (hactive : scanner.preparation.report.active = scanner'.preparation.report.active)
    (hrefused : scanner.preparation.isRefused refuses = scanner'.preparation.isRefused refuses)
    (buffers : List ByteArray) :
    (scanner.scanBuffers refuses buffers).result =
      (scanner'.scanBuffers refuses buffers).result := by
  rw [scanBuffers, scanBuffers, run_result_eq, run_result_eq, htotal, results, results, hworkers,
    hlimit]
  simp only [Worker.run_result_congr scanner'.config.maxFileSize hscan hactive hrefused]

end Scanner

/-- If both kinds of engines refuse the same names among the patterns of some signatures, they
record the same over any files and from any statistics on, and runs that differ in the kind of the
engine come to the same statistics or to the same error. -/
theorem kinds_agree_of_excludedNames_eq (anchoring : Anchoring) (signatures : List Signature)
    (hexcluded : (prepareFor .backtrack anchoring signatures).excludedNames =
      (prepareFor .twoPhase anchoring signatures).excludedNames) :
    (∀ stats steps, (prepareFor .backtrack anchoring signatures).engine.followAll stats steps =
      (prepareFor .twoPhase anchoring signatures).engine.followAll stats steps) ∧
    ∀ (config : ScanConfig) (refuses : Event → Bool),
      (prepareFor .backtrack anchoring signatures).isRefused refuses =
        (prepareFor .twoPhase anchoring signatures).isRefused refuses →
      ∀ buffers, scanRefusing { config with engine := .backtrack, anchoring } signatures refuses
          buffers =
        scanRefusing { config with engine := .twoPhase, anchoring } signatures refuses buffers := by
  have hrefuses := fun p => Engine.refuses_eq_of_excluded_eq (p := p) hexcluded
  have hscan := Engine.scan_prepare_eq_of_refuses_eq hrefuses
  refine ⟨Engine.followAll_eq_of_scan_eq hscan, ?_⟩
  intro config refuses hrefused buffers
  have hvalid : ({ config with engine := .backtrack, anchoring } : ScanConfig).validate =
      ({ config with engine := .twoPhase, anchoring } : ScanConfig).validate := rfl
  rw [scanRefusing, scanRefusing, Scanner.create, Scanner.create, hvalid]
  cases ({ config with engine := .twoPhase, anchoring } : ScanConfig).validate with
  | error e => rfl
  | ok =>
      have hactive : (prepareFor .backtrack anchoring signatures).report.active =
          (prepareFor .twoPhase anchoring signatures).report.active := by
        rw [prepareFor, prepareFor, (Engine.report_prepare _ _).1, (Engine.report_prepare _ _).1,
          Engine.matchers_prepare_eq_of_refuses_eq hrefuses]
      simp only
      split
      · rfl
      · exact Scanner.scanBuffers_result_congr
          ⟨{ config with engine := .backtrack, anchoring }, signatures, _⟩
          ⟨{ config with engine := .twoPhase, anchoring }, signatures, _⟩
          rfl rfl rfl hscan hactive hrefused buffers

def mixedSignatures : List Signature :=
  [.binary "ZIP" "504B", { Signature.binary "ZIP" "50" with minFileSize := 3 },
    .text "HTML" "<html", .text "BAD" "(unclosed"]

theorem compileAll_mixedSignatures : (Signature.compileAll .start mixedSignatures).1 =
    [⟨"ZIP", "^\\x50\\x4B", false, 0, 0⟩, ⟨"ZIP", "^\\x50", false, 0, 3⟩,
      ⟨"HTML", "<html", true, 0, 0⟩, ⟨"BAD", "(unclosed", true, 0, 0⟩] := by
  have hcompiled : mixedSignatures.filterMap (Signature.compile? .start) =
      [⟨"ZIP", "^\\x50\\x4B", false, 0, 0⟩, ⟨"ZIP", "^\\x50", false, 0, 3⟩,
        ⟨"HTML", "<html", true, 0, 0⟩, ⟨"BAD", "(unclosed", true, 0, 0⟩] := by
    decide +kernel
  rw [Signature.compileAll, hcompiled, Pattern.inScanOrder,
    List.mergeSort_of_pairwise (by decide +kernel)]

theorem kinds_agree_mixedSignatures :
    (prepareFor .backtrack .start mixedSignatures).excludedNames = ["BAD"] ∧
      (prepareFor .twoPhase .start mixedSignatures).excludedNames = ["BAD"] ∧
      scanRefusing { engine := .backtrack, workers := 2 } mixedSignatures (fun _ => false)
          [⟨#[80, 75]⟩, ⟨#[]⟩, "<HTML>".toUTF8] =
        scanRefusing { engine := .twoPhase, workers := 2 } mixedSignatures (fun _ => false)
          [⟨#[80, 75]⟩, ⟨#[]⟩, "<HTML>".toUTF8] := by
  have hbacktrack : (prepareFor .backtrack .start mixedSignatures).excludedNames = ["BAD"] := by
    rw [prepareFor, compileAll_mixedSignatures]
    decide +kernel
  have htwoPhase : (prepareFor .twoPhase .start mixedSignatures).excludedNames = ["BAD"] := by
    rw [prepareFor, compileAll_mixedSignatures]
    decide +kernel
  have hrefused (kind : EngineKind) :
      (prepareFor kind .start mixedSignatures).isRefused (fun _ => false) = false :=
    List.any_eq_false.2 fun _ _ => Bool.false_ne_true
  exact ⟨hbacktrack, htwoPhase, (kinds_agree_of_excludedNames_eq .start mixedSignatures
    (hbacktrack.trans htwoPhase.symm)).2 { workers := 2 } (fun _ => false)
      ((hrefused _).trans (hrefused _).symm) _⟩

end FormatScan
