import FormatScan.Proofs.Correction.Order
import FormatScan.Proofs.Run.Agreement
import FormatScan.Proofs.Run.Outcome
import FormatScan.Proofs.Run.Skipped

/-!
# Signatures in another order

Signatures with names of their own may come in any order: an engine finds the same names in a file,
and of the patterns that it refuses nothing counts but which they are.
-/

namespace FormatScan

variable {refuses : Event → Bool}

/-! ### Engines -/

namespace Engine

variable {patterns patterns' : List Pattern} {e e' : Engine}

theorem active_prepare_perm (e : Engine) (hperm : patterns.Perm patterns') :
    (e.prepare patterns).report.active = (e.prepare patterns').report.active := by
  rw [(report_prepare e patterns).1, (report_prepare e patterns').1, matchers_prepare,
    matchers_prepare]
  exact ((hperm.map _).filterMap _).length_eq

theorem isRefused_prepare_perm (e : Engine) (hperm : patterns.Perm patterns') :
    (e.prepare patterns).isRefused refuses = (e.prepare patterns').isRefused refuses := by
  unfold Preparation.isRefused PrepareReport.events
  rw [kind_prepare, kind_prepare, excluded_prepare, excluded_prepare]
  exact (((hperm.map _).filterMap _).map _).any_eq

/-- Patterns in another order hit the same names. -/
theorem mem_hits_prepare_perm (e : Engine) (hperm : patterns.Perm patterns') (bytes : ByteArray)
    (name : String) :
    name ∈ (e.prepare patterns).engine.hits bytes ↔
      name ∈ (e.prepare patterns').engine.hits bytes := by
  simp only [mem_hits_prepare, hperm.mem_iff]

theorem beginFile_scanFile_eq (hhits : ∀ bytes name, name ∈ e.hits bytes ↔ name ∈ e'.hits bytes)
    (bytes : ByteArray) :
    (e.scanFile bytes .empty).beginFile = (e'.scanFile bytes .empty).beginFile := by
  have hrecord := Stats.beginFile_foldl_recorded_eq (hhits bytes)
  unfold scanFile
  rw [scan_eq_foldl_recorded, scan_eq_foldl_recorded]
  exact congrArg Stats.fileProcessed hrecord

theorem beginFile_share_visitBuffer_eq
    (hhits : ∀ bytes name, name ∈ e.hits bytes ↔ name ∈ e'.hits bytes) (limit : Nat)
    (bytes : ByteArray) :
    (share (visitBuffer limit) e bytes).beginFile =
      (share (visitBuffer limit) e' bytes).beginFile := by
  unfold share visitBuffer
  split
  · rfl
  · split
    · rfl
    · exact beginFile_scanFile_eq hhits bytes

end Engine

/-! ### Runs -/

theorem Worker.error?_congr {α : Type} {p p' : Preparation}
    (hactive : p.report.active = p'.report.active)
    (hrefused : p.isRefused refuses = p'.isRefused refuses) (told : Nat → α → List Event)
    (worker first : Nat) (items : List α) :
    error? told refuses p worker first items = error? told refuses p' worker first items := by
  have hpreamble : (preamble p worker).any refuses = (preamble p' worker).any refuses := by
    unfold preamble
    split
    · exact hrefused
    · rfl
  unfold error? raised
  rw [List.any_append, List.any_append, hpreamble, hactive]

namespace Scanner

/-- The names of the current file, which come in the order of the patterns, are lost in the sum. -/
theorem total_eq_of_beginFile {scanner scanner' : Scanner} {α : Type} {f g : α → Stats}
    (htotal : scanner.total = scanner'.total)
    (hsame : ∀ item, (f item).beginFile = (g item).beginFile) (items : List α) :
    scanner.total (items.map f) = scanner'.total (items.map g) := by
  rw [htotal]
  unfold total
  rw [← Stats.mergeAll_map_beginFile, ← Stats.mergeAll_map_beginFile (items.map g), List.map_map,
    List.map_map]
  simp only [Function.comp_def, hsame]

/-- A run with patterns in another order has the same result, if the correction has. -/
theorem scanBuffers_result_eq_of_perm (config : ScanConfig) {xs ys : List Signature}
    {patterns patterns' : List Pattern} (hperm : patterns.Perm patterns')
    (hcorrect : Stats.correct xs = Stats.correct ys) (buffers : List ByteArray) :
    ((Scanner.mk config xs patterns).scanBuffers refuses buffers).result =
      ((Scanner.mk config ys patterns').scanBuffers refuses buffers).result := by
  have hsettles := settles_visitBuffer config.maxFileSize
  have herror : (Scanner.mk config xs patterns).error?
        (fun index bytes => (bufferWarning? config.maxFileSize index bytes).toList)
        refuses buffers =
      (Scanner.mk config ys patterns').error?
        (fun index bytes => (bufferWarning? config.maxFileSize index bytes).toList)
        refuses buffers := by
    unfold error? errors preparation
    simp only [Worker.error?_congr (Engine.active_prepare_perm { kind := config.engine } hperm)
      (Engine.isRefused_prepare_perm { kind := config.engine } hperm)]
  have htotal : (Scanner.mk config xs patterns).total = (Scanner.mk config ys patterns').total := by
    funext parts
    unfold total
    rw [hcorrect]
  have hparts := total_eq_of_beginFile htotal (Engine.beginFile_share_visitBuffer_eq
    (Engine.mem_hits_prepare_perm { kind := config.engine } hperm) config.maxFileSize) buffers
  unfold scanBuffers
  rw [run_result hsettles.additive hsettles.tells, run_result hsettles.additive hsettles.tells,
    herror]
  cases (Scanner.mk config ys patterns').error?
    (fun index bytes => (bufferWarning? config.maxFileSize index bytes).toList) refuses buffers with
  | some e => rfl
  | none => exact congrArg Except.ok hparts

end Scanner

/-- Signatures in another order have the same patterns, in another order. -/
theorem Signature.compileAll_perm (anchoring : Anchoring) {xs ys : List Signature}
    (hperm : xs.Perm ys) : (compileAll anchoring xs).1.Perm (compileAll anchoring ys).1 := by
  unfold compileAll Pattern.inScanOrder
  exact (List.mergeSort_perm _ _).trans
    ((hperm.filterMap _).trans (List.mergeSort_perm _ _).symm)

theorem scanRefusing_eq_of_perm (config : ScanConfig) {xs ys : List Signature}
    (hnames : (xs.map (·.name)).Nodup) (hperm : xs.Perm ys) (refuses : Event → Bool)
    (buffers : List ByteArray) :
    scanRefusing config xs refuses buffers = scanRefusing config ys refuses buffers := by
  have hpatterns := Signature.compileAll_perm config.anchoring hperm
  have hcorrect : Stats.correct xs = Stats.correct ys := by
    funext policy s
    exact Stats.correct_eq_of_redeclares hnames (.of_perm hperm) policy s
  unfold scanRefusing Scanner.create
  cases config.validate with
  | error e => rfl
  | ok =>
      have hempty : (Signature.compileAll config.anchoring xs).1.isEmpty =
          (Signature.compileAll config.anchoring ys).1.isEmpty := hpatterns.isEmpty_eq
      simp only [hempty]
      split
      · rfl
      · exact Scanner.scanBuffers_result_eq_of_perm config hpatterns hcorrect buffers

/-- Where the names are distinct, neither the order of the signatures nor who declares that two of
them exclude each other makes a difference. -/
theorem signature_order_irrelevant {xs : List Signature} (hnames : (xs.map (·.name)).Nodup) :
    (∀ ys, xs.Perm ys →
      (∀ config refuses buffers,
        scanRefusing config xs refuses buffers = scanRefusing config ys refuses buffers) ∧
      ∀ policy s, Stats.correct xs policy s = Stats.correct ys policy s) ∧
    ∀ choice policy s,
      Stats.correct (Stats.declareBy choice xs) policy s = Stats.correct xs policy s := by
  refine ⟨?_, ?_⟩
  · intro ys hperm
    refine ⟨?_, Stats.correct_eq_of_redeclares hnames (.of_perm hperm)⟩
    intro config refuses buffers
    exact scanRefusing_eq_of_perm config hnames hperm refuses buffers
  · intro choice policy s
    exact (Stats.correct_eq_of_redeclares hnames (Stats.redeclares_declareBy choice xs) policy
      s).symm

def archiveVersions : List Signature :=
  [(Signature.binary "RAR4" "52617221").exclude "RAR5",
    { Signature.binary "RAR5" "5261722101" with priority := 2 }, .binary "ZIP" "504B"]

theorem archiveVersions_order_irrelevant :
    (archiveVersions.map (·.name)).Nodup ∧ archiveVersions.Perm archiveVersions.reverse ∧
      scanRefusing { workers := 2 } archiveVersions (fun _ => false)
          [⟨#[0x52, 0x61, 0x72, 0x21, 1]⟩, ⟨#[0x50, 0x4B]⟩] =
        scanRefusing { workers := 2 } archiveVersions.reverse (fun _ => false)
          [⟨#[0x52, 0x61, 0x72, 0x21, 1]⟩, ⟨#[0x50, 0x4B]⟩] ∧
      Stats.correct (Stats.declareBy (fun _ => .second) archiveVersions) {}
          { counts := .ofList [("RAR4", 1), ("RAR5", 1)] } =
        Stats.correct archiveVersions {} { counts := .ofList [("RAR4", 1), ("RAR5", 1)] } := by
  have hnames : (archiveVersions.map (·.name)).Nodup := by decide
  have hperm : archiveVersions.Perm archiveVersions.reverse := (List.reverse_perm _).symm
  obtain ⟨horder, hdeclared⟩ := signature_order_irrelevant hnames
  exact ⟨hnames, hperm, (horder _ hperm).1 _ _ _, hdeclared _ _ _⟩

end FormatScan
