import FormatScan.Proofs.Run.Points

/-!
# Runs without references that lead nowhere

What the signatures compile to has nothing to do with what they refer to, and the names that a run
has entries of are names of signatures. So a run comes to the same without the references that lead
nowhere.
-/

namespace FormatScan

open Signature

variable {refuses : Event → Bool} {config : ScanConfig} {xs : List Signature} {name : String}
  {kind : EngineKind} {anchoring : Anchoring} {scanner : Scanner} {buffers : List ByteArray}

/-- A name is looked for if one of its signatures is accepted. -/
theorem seeks_prepareFor_iff : (prepareFor kind anchoring xs).engine.Seeks name ↔
    ∃ s ∈ xs, s.name = name ∧ (s.matcher? anchoring kind).isSome = true := by
  simp only [Engine.Seeks, prepareFor, Engine.mem_matchers_prepare, compileAll,
    Pattern.inScanOrder, List.mem_mergeSort, List.mem_filterMap, Option.isSome_iff_exists,
    matcher?_eq_some]
  constructor
  · rintro ⟨m, ⟨p, ⟨s, hs, hcompile⟩, hmade⟩, hname⟩
    rw [(Matcher.ofPattern_eq_ok hmade).1, name_of_compile? hcompile] at hname
    exact ⟨s, hs, hname, m, p, hcompile, hmade⟩
  · rintro ⟨s, hs, hname, m, p, hcompile, hmade⟩
    refine ⟨m, ⟨p, ⟨s, hs, hcompile⟩, hmade⟩, ?_⟩
    rw [(Matcher.ofPattern_eq_ok hmade).1, name_of_compile? hcompile, hname]

theorem compileAll_withoutDangling (anchoring : Anchoring) (xs : List Signature) :
    compileAll anchoring (withoutDangling xs) = compileAll anchoring xs := by
  unfold compileAll withoutDangling
  rw [List.filterMap_map, List.flatMap_map]
  rfl

namespace Scanner

theorem eq_of_create (hcreate : (create config xs).1 = .ok scanner) :
    scanner = ⟨config, xs, (compileAll config.anchoring xs).1⟩ := by
  unfold create at hcreate
  split at hcreate
  · cases hcreate
  · simp only at hcreate
    split at hcreate
    · cases hcreate
    · exact (Except.ok.inj hcreate).symm

theorem create_withoutDangling (config : ScanConfig) (xs : List Signature) :
    create config (withoutDangling xs) =
      ((create config xs).1.map fun scanner => { scanner with signatures := withoutDangling xs },
        (create config xs).2) := by
  unfold create
  rw [compileAll_withoutDangling]
  split
  · rfl
  · simp only
    split <;> rfl

section

variable {α : Type} {visit : Visit α} {items : List α}

/-- Signatures have a part in the work of a run by what they compile to, and then only in the
correction. -/
theorem run_eq_of_total_eq
    (htotal : ∀ parts, firstFailure (scanner.results visit refuses items) = .ok parts →
      { scanner with signatures := xs }.total parts = scanner.total parts) :
    { scanner with signatures := xs }.run visit refuses items =
      scanner.run visit refuses items := by
  have hresults : { scanner with signatures := xs }.results visit refuses items =
      scanner.results visit refuses items := rfl
  rw [run_eq, run_eq, hresults]
  cases hfirst : firstFailure (scanner.results visit refuses items) with
  | error e => rfl
  | ok parts =>
      simp only [htotal parts hfirst]
      rfl

end

theorem namesIn_mergeAll_of_firstFailure {parts : List Stats}
    (hparts : firstFailure (scanner.results (visitBuffer scanner.config.maxFileSize) refuses
      buffers) = .ok parts) :
    (Stats.mergeAll parts).NamesIn scanner.preparation.engine.Seeks := by
  obtain ⟨s, hreached, hdone, hjoined⟩ := scanner.exists_isReached_isDone refuses 0 buffers
  rw [← hjoined] at hparts
  exact namesIn_of_isPoint (.merging hreached hdone hparts (List.prefix_refl parts))

/-- A run is the same without the references that lead nowhere. -/
theorem scanBuffers_withoutDangling (hcreate : (create config xs).1 = .ok scanner)
    (refuses : Event → Bool) (buffers : List ByteArray) :
    { scanner with signatures := withoutDangling xs }.scanBuffers refuses buffers =
      scanner.scanBuffers refuses buffers := by
  apply run_eq_of_total_eq
  intro parts hparts
  have hnames := namesIn_mergeAll_of_firstFailure hparts
  rw [eq_of_create hcreate] at hnames ⊢
  apply Stats.correct_withoutDangling
  intro name hname
  obtain ⟨s, hs, hsname, -⟩ := seeks_prepareFor_iff.1 (hnames.counts name hname)
  exact List.mem_map.2 ⟨s, hs, hsname⟩

/-- A run comes to the same without the references that lead nowhere; for at every point of it, a
name with an entry is that of a signature that the engine has a pattern of. -/
theorem dangling_references_idle (config : ScanConfig) (xs : List Signature) :
    (create config (withoutDangling xs)).2 = (create config xs).2 ∧
      (∀ refuses buffers,
        (create config (withoutDangling xs)).1.map (·.scanBuffers refuses buffers) =
          (create config xs).1.map (·.scanBuffers refuses buffers)) ∧
      ∀ scanner, (create config xs).1 = .ok scanner →
        ∀ refuses counter buffers stats, scanner.IsPoint refuses counter buffers stats →
          stats.NamesIn fun name =>
            ∃ s ∈ xs, s.name = name ∧
              (s.matcher? config.anchoring config.engine).isSome = true := by
  rw [create_withoutDangling]
  refine ⟨rfl, ?runs, ?points⟩
  case runs =>
    intro refuses buffers
    cases hcreate : (create config xs).1 with
    | error e => rfl
    | ok scanner => exact congrArg Except.ok (scanBuffers_withoutDangling hcreate refuses buffers)
  case points =>
    intro scanner hcreate refuses counter buffers stats hpoint
    have hnames := namesIn_of_isPoint hpoint
    rw [eq_of_create hcreate] at hnames
    exact hnames.imp fun _ => seeks_prepareFor_iff.1

def lonely : Signature :=
  { Signature.binary "DOC" "D0CF" with deductFrom := some "OLE", exclusiveWith := ["DOC", "MSI"] }

example : withoutDangling [lonely] = [.binary "DOC" "D0CF"] := by decide +kernel

def lonelyScanner : Scanner where
  config := { engine := .backtrack, workers := 2 }
  signatures := [lonely]
  patterns := [⟨"DOC", "^\\xD0\\xCF", false, 0, 0⟩]

theorem create_lonelyScanner :
    (create lonelyScanner.config [lonely]).1 = .ok lonelyScanner := by
  have hcompiled : [lonely].filterMap (compile? .start) = lonelyScanner.patterns := by
    decide +kernel
  have hpatterns : (compileAll .start [lonely]).1 = lonelyScanner.patterns := by
    rw [compileAll, hcompiled, Pattern.inScanOrder, lonelyScanner, List.mergeSort_singleton]
  rw [create]
  simp only [lonelyScanner] at hpatterns
  simp only [ScanConfig.validate, lonelyScanner]
  simp [hpatterns, EngineKind.isAvailable, defaultMaxFileSize]

/-- A run over two buffers, of which the first one counts. -/
theorem dangling_references_idle_lonely :
    (create lonelyScanner.config [lonely]).1 = .ok lonelyScanner ∧
      ∃ final, (lonelyScanner.scanBuffers (fun _ => false)
          [⟨#[0xD0, 0xCF]⟩, ⟨#[0x50]⟩]).result = .ok final ∧
        lonelyScanner.IsPoint (fun _ => false) 7 [⟨#[0xD0, 0xCF]⟩, ⟨#[0x50]⟩] final ∧
        ∀ name ∈ final.counts.names, name = "DOC" := by
  have hresult := run_result_of_accepts (isAdditive_visitBuffer defaultMaxFileSize)
    (fun _ => rfl) lonelyScanner [⟨#[0xD0, 0xCF]⟩, ⟨#[0x50]⟩]
  have hactive : lonelyScanner.preparation.report.active ≠ 0 := by decide +kernel
  rw [if_neg fun hnone => hactive hnone.2] at hresult
  have hpoint : lonelyScanner.IsPoint (fun _ => false) 7 [⟨#[0xD0, 0xCF]⟩, ⟨#[0x50]⟩] _ :=
    isPoint_of_result hresult 7
  have hnames := (dangling_references_idle lonelyScanner.config [lonely]).2.2 lonelyScanner
    create_lonelyScanner _ _ _ _ hpoint
  refine ⟨create_lonelyScanner, _, hresult, hpoint, ?_⟩
  intro name hname
  obtain ⟨s, hs, hsname, -⟩ := hnames.counts name hname
  rw [← hsname, List.mem_singleton.1 hs]
  rfl

end Scanner

end FormatScan
