import FormatScan.Proofs.Run.Outcome
import FormatScan.Proofs.Run.Skipped
import Mathlib.Algebra.Order.BigOperators.Group.List
import Mathlib.Algebra.Order.Group.Nat
import Mathlib.Data.List.ReduceOption

/-!
# Every item has one outcome

In a run that does not fail every item is counted as a file or warned about, and never both. The
items that are warned about leave no other trace: without them the run comes to the same.
-/

namespace FormatScan

variable {α : Type} {visit : Visit α} {warning? : Nat → α → Option Event} {refuses : Event → Bool}

/-- Warnings about what was to be scanned, as opposed to those about signatures. -/
def Event.isAboutItem (event : Event) : Bool :=
  match event.severity, event.subject with
  | .warn, .path _ => true
  | .warn, .run => true
  | _, _ => false

def unreported (warning? : Nat → α → Option Event) (items : List α) : List α :=
  (items.zipIdx.filter fun item => (warning? item.2 item.1).isNone).map (·.1)

/-- What is to be said of a run that comes to the statistics `final`. -/
structure Accounts (run : List α → RunOutcome) (warning? : Nat → α → Option Event)
    (items : List α) (final : Stats) : Prop where
  warnings : (run items).events.filter Event.isAboutItem = (items.mapIdx warning?).reduceOption
  counted : final.filesProcessed = (items.mapIdx warning?).countP (·.isNone)
  complete : final.filesProcessed + ((run items).events.filter Event.isAboutItem).length =
    items.length
  progress : (run items).progress = items.length
  alone : (run (unreported warning? items)).result = .ok final
  bounded (name : String) : final.count name + final.embeddedCount name ≤ final.filesProcessed

theorem toldOf_warnings (warning? : Nat → α → Option Event) (items : List α) :
    Worker.toldOf (fun index item => (warning? index item).toList) 0 items =
      (items.mapIdx warning?).reduceOption := by
  unfold Worker.toldOf List.reduceOption
  rw [List.mapIdx_eq_zipIdx_map, List.filterMap_map, List.filterMap_eq_flatMap_toList]
  rfl

theorem map_fst_zipIdx {β : Type} (f : α → β) (items : List α) :
    (items.zipIdx.map fun item => f item.1) = items.map f := by
  conv_rhs => rw [← List.zipIdx_map_fst 0 items, List.map_map]
  rfl

namespace Stats

theorem filesProcessed_mergeAll (parts : List Stats) :
    (mergeAll parts).filesProcessed = (parts.map (·.filesProcessed)).sum := by
  induction parts with
  | nil => rfl
  | cons part rest ih =>
      rw [mergeAll_cons, List.map_cons, List.sum_cons, ← ih]
      rfl

theorem detections_mergeAll (parts : List Stats) (name : String) :
    (mergeAll parts).detections name = (parts.map fun part => part.detections name).sum := by
  induction parts with
  | nil => rfl
  | cons part rest ih =>
      have hmerge : (part.beginFile.merge (mergeAll rest)).detections name =
          part.count name + (mergeAll rest).count name +
            (part.embeddedCount name + (mergeAll rest).embeddedCount name) :=
        congrArg₂ (· + ·) (Counts.count_merge _ _ _) (Counts.count_merge _ _ _)
      rw [mergeAll_cons, List.map_cons, List.sum_cons, ← ih, hmerge]
      unfold detections
      omega

/-- What adds nothing can be left out. -/
theorem mergeAll_map_filter {β : Type} {f : β → Stats} {keeps : β → Bool} (items : List β)
    (hdropped : ∀ item, keeps item = false → f item = .empty) :
    mergeAll ((items.filter keeps).map f) = mergeAll (items.map f) := by
  induction items with
  | nil => rfl
  | cons item rest ih =>
      cases hkeeps : keeps item with
      | true => rw [List.filter_cons_of_pos hkeeps, List.map_cons, List.map_cons, mergeAll_cons,
          mergeAll_cons, ih]
      | false =>
          rw [List.filter_cons_of_neg (by simp [hkeeps]), List.map_cons, mergeAll_cons,
            hdropped item hkeeps, beginFile_empty, empty_merge, beginFile_mergeAll, ih]

end Stats

theorem Scanner.filter_refusals (scanner : Scanner) :
    scanner.refusals.filter Event.isAboutItem = [] := by
  rw [List.filter_eq_nil_iff]
  intro event hmem
  obtain ⟨exclusion, -, rfl⟩ := List.mem_map.1 hmem
  exact Bool.false_ne_true

namespace Visit.Settles

variable (hsettles : visit.Settles warning?)

include hsettles

/-- Whether there is a warning about an item does not depend on where it stands. -/
theorem warning?_eq_none {index : Nat} {item : α} (hsilent : warning? index item = none)
    (other : Nat) : warning? other item = none := by
  by_contra hwarned
  have hcounted := hsettles.counted hsilent { kind := .backtrack }
  rw [hsettles.skipped (Option.isSome_iff_ne_none.2 hwarned)] at hcounted
  cases hcounted

theorem mergeAll_unreported (engine : Engine) (items : List α) :
    Stats.mergeAll ((unreported warning? items).map (share visit engine)) =
      Stats.mergeAll (items.map (share visit engine)) := by
  rw [← map_fst_zipIdx (share visit engine) items, unreported, List.map_map]
  apply Stats.mergeAll_map_filter
  intro item hwarned
  have hsome : (warning? item.2 item.1).isSome = true := by simpa using hwarned
  exact hsettles.skipped hsome engine

theorem toldOf_unreported (first : Nat) (items : List α) :
    Worker.toldOf (fun index item => (warning? index item).toList) first
      (unreported warning? items) = [] := by
  unfold Worker.toldOf
  rw [List.flatMap_eq_nil_iff]
  intro item hitem
  have hmem : item.1 ∈ unreported warning? items := by
    have hfst := List.mem_map_of_mem (f := Prod.fst) hitem
    rwa [List.zipIdx_map_fst] at hfst
  obtain ⟨kept, hkept, hsame⟩ := List.mem_map.1 hmem
  have hsilent : warning? kept.2 kept.1 = none := by
    simpa using (List.mem_filter.1 hkept).2
  simp only [← hsame, hsettles.warning?_eq_none hsilent, Option.toList_none]

theorem filesProcessed_share {engine : Engine} (index : Nat) (item : α) :
    (share visit engine item).filesProcessed =
      if (warning? index item).isNone = true then 1 else 0 := by
  by_cases hsilent : warning? index item = none
  · rw [hsettles.counted hsilent, if_pos (Option.isNone_iff_eq_none.2 hsilent)]
  · rw [hsettles.skipped (Option.isSome_iff_ne_none.2 hsilent),
      if_neg (mt Option.isNone_iff_eq_none.1 hsilent)]
    rfl

/-- The items without a warning are those that are counted. -/
theorem filesProcessed_total (scanner : Scanner) (items : List α) :
    (scanner.total (items.map (share visit scanner.preparation.engine))).filesProcessed =
      (items.mapIdx warning?).countP (·.isNone) := by
  unfold Scanner.total
  -- both sides as a count over the items with their indices
  rw [Stats.filesProcessed_correct, Stats.filesProcessed_mergeAll, List.map_map,
    ← map_fst_zipIdx _ items, List.mapIdx_eq_zipIdx_map, List.countP_map]
  induction items.zipIdx with
  | nil => rfl
  | cons item rest ih =>
      rw [List.map_cons, List.sum_cons, ih, List.countP_cons, Nat.add_comm]
      congr 1
      exact hsettles.filesProcessed_share item.2 item.1

/-- A format has no more detections than files were counted, because each file shows it once. -/
theorem detections_total_le (scanner : Scanner) (items : List α) (name : String) :
    (scanner.total (items.map (share visit scanner.preparation.engine))).detections name ≤
      (scanner.total
        (items.map (share visit scanner.preparation.engine))).filesProcessed := by
  unfold Scanner.total
  rw [Stats.filesProcessed_correct]
  refine Nat.le_trans (Stats.detections_correct_le _ _ _ _) ?_
  rw [Stats.detections_mergeAll, Stats.filesProcessed_mergeAll, List.map_map, List.map_map]
  exact List.sum_le_sum fun item _ => hsettles.bounded scanner.preparation.engine item name

/-- A run over the items that nothing was told of comes to the same. -/
theorem run_unreported (scanner : Scanner) {items : List α} {final : Stats}
    (hresult : (scanner.run visit refuses items).result = .ok final) :
    (scanner.run visit refuses (unreported warning? items)).result = .ok final := by
  have hfinal := Scanner.run_result_ok hsettles.additive hresult
  have hnone := Scanner.error?_of_result_ok hsettles.additive hsettles.tells hresult
  have halone : scanner.error? (fun index item => (warning? index item).toList) refuses
      (unreported warning? items) = none := by
    rw [Scanner.error?_eq_none_iff, hsettles.toldOf_unreported]
    rcases Scanner.error?_eq_none_iff.1 hnone with hnil | ⟨hactive, hrefusals, -⟩
    · exact .inl (by rw [hnil]; rfl)
    · exact .inr ⟨hactive, hrefusals, rfl⟩
  rw [Scanner.run_result hsettles.additive hsettles.tells, halone, hfinal]
  unfold Scanner.total
  simp only [hsettles.mergeAll_unreported]

variable (haboutItem : ∀ index item, ∀ event ∈ warning? index item, event.isAboutItem = true)

include haboutItem

theorem filter_events (scanner : Scanner) {items : List α} {final : Stats}
    (hresult : (scanner.run visit refuses items).result = .ok final) :
    (scanner.run visit refuses items).events.filter Event.isAboutItem =
      (items.mapIdx warning?).reduceOption := by
  have hrefusals : (if items = [] then [] else scanner.refusals).filter Event.isAboutItem = [] := by
    split
    · rfl
    · exact scanner.filter_refusals
  have hwarnings : (items.mapIdx warning?).reduceOption.filter Event.isAboutItem =
      (items.mapIdx warning?).reduceOption := by
    rw [List.filter_eq_self]
    intro event hmem
    obtain ⟨index, hindex, hevent⟩ := List.mem_mapIdx.1 (List.reduceOption_mem_iff.1 hmem)
    exact haboutItem index items[index] event hevent
  have hclosing : (scanner.run visit refuses items).closing.filter Event.isAboutItem = [] := by
    rw [Scanner.run_closing, hresult]
    rfl
  rw [Scanner.run_events hsettles.tells
      (Scanner.error?_of_result_ok hsettles.additive hsettles.tells hresult),
    List.filter_append, List.filter_append, hrefusals, toldOf_warnings, hwarnings, hclosing,
    List.nil_append, List.append_nil]

/-- A run of visits that settle their items accounts for all of them. -/
theorem accounts (scanner : Scanner) {items : List α} {final : Stats}
    (hresult : (scanner.run visit refuses items).result = .ok final) :
    Accounts (scanner.run visit refuses) warning? items final := by
  have hfinal := Scanner.run_result_ok hsettles.additive hresult
  have hwarnings := hsettles.filter_events haboutItem scanner hresult
  have hcounted : final.filesProcessed = (items.mapIdx warning?).countP (·.isNone) := by
    rw [hfinal, hsettles.filesProcessed_total]
  refine ⟨hwarnings, hcounted, ?_, ?_, hsettles.run_unreported scanner hresult, ?_⟩
  · have hsplit := List.length_eq_reduceOption_length_add_filter_none (l := items.mapIdx warning?)
    rw [List.length_mapIdx] at hsplit
    rw [hwarnings, hcounted, List.countP_eq_length_filter, hsplit, Nat.add_comm]
  · exact Scanner.run_progress hsettles.tells
      (Scanner.error?_of_result_ok hsettles.additive hsettles.tells hresult)
  · intro name
    have hbounded := hsettles.detections_total_le scanner items name
    rwa [← hfinal] at hbounded

end Visit.Settles

theorem FileTree.warning?_of_hasFault {tree : FileTree} {limit : Nat} {path : Path}
    {fault : PathFault} (hfault : tree.HasFault limit path fault) :
    tree.warning? limit path = some (.pathWarning path (fault.message limit)) := by
  unfold warning?
  rw [fault?_eq_some_iff.2 hfault]
  rfl

theorem FileTree.warning?_of_not_hasFault {tree : FileTree} {limit : Nat} {path : Path}
    (hnone : ¬∃ fault, tree.HasFault limit path fault) : tree.warning? limit path = none := by
  unfold warning?
  rw [Option.map_eq_none_iff]
  by_contra hsome
  obtain ⟨fault, hfault⟩ := Option.ne_none_iff_exists'.1 hsome
  exact hnone ⟨fault, fault?_eq_some_iff.1 hfault⟩

theorem isAboutItem_bufferWarning? (limit index : Nat) (bytes : ByteArray) :
    ∀ event ∈ bufferWarning? limit index bytes, event.isAboutItem = true := by
  intro event hevent
  unfold bufferWarning? at hevent
  split at hevent
  · rw [← Option.some.inj hevent]
    rfl
  · cases hevent

theorem isAboutItem_warning? (tree : FileTree) (limit : Nat) (path : Path) :
    ∀ event ∈ tree.warning? limit path, event.isAboutItem = true := by
  intro event hevent
  obtain ⟨fault, -, rfl⟩ := Option.map_eq_some_iff.1 hevent
  rfl

/-- A run that does not fail counts or warns about each of its items: about the buffers that are too
long by their indices, and about the paths that have a fault by the fault. -/
theorem Scanner.run_accounts (scanner : Scanner) (refuses : Event → Bool) :
    (∀ buffers final, (scanner.scanBuffers refuses buffers).result = .ok final →
      Accounts (scanner.scanBuffers refuses) (bufferWarning? scanner.config.maxFileSize) buffers
        final) ∧
    (∀ tree paths final, (scanner.scanPaths tree refuses paths).result = .ok final →
      Accounts (scanner.scanPaths tree refuses)
        (fun _ path => tree.warning? scanner.config.maxFileSize path) paths final) ∧
    ∀ (tree : FileTree) (path : Path),
      (∀ fault, tree.HasFault scanner.config.maxFileSize path fault →
        tree.warning? scanner.config.maxFileSize path =
          some (.pathWarning path (fault.message scanner.config.maxFileSize))) ∧
      ((¬∃ fault, tree.HasFault scanner.config.maxFileSize path fault) →
        tree.warning? scanner.config.maxFileSize path = none) := by
  refine ⟨?_, ?_, ?_⟩
  · intro buffers final hresult
    exact (settles_visitBuffer _).accounts (isAboutItem_bufferWarning? _) scanner hresult
  · intro tree paths final hresult
    exact (settles_visitPath tree _).accounts (fun _ => isAboutItem_warning? tree _) scanner hresult
  · intro tree path
    exact ⟨fun _ => FileTree.warning?_of_hasFault, FileTree.warning?_of_not_hasFault⟩

def zipScanner (workers : Nat) : Scanner where
  config := { engine := .backtrack, workers, maxFileSize := 3 }
  signatures := [.binary "ZIP" "504B"]
  patterns := [⟨"ZIP", "^\\x50\\x4B", false, 0, 0⟩]

/-- Runs with this scanner succeed if nobody refuses an event. -/
theorem exists_result_zipScanner {α : Type} {visit : Visit α} (hadd : IsAdditive visit)
    (workers : Nat) (items : List α) :
    ∃ final, ((zipScanner workers).run visit (fun _ => false) items).result = .ok final := by
  -- the patterns are the same for any number of workers
  have hactive : (zipScanner 2).preparation.report.active ≠ 0 := by decide +kernel
  have hresult := Scanner.run_result_of_accepts hadd (fun _ => rfl) (zipScanner workers) items
  rw [if_neg fun hnone => hactive hnone.2] at hresult
  exact ⟨_, hresult⟩

theorem node_of_no_tree : ({} : FileTree).node ⟨"a.zip"⟩ = .error .notFound := by
  have hpieces : Path.pieces "a.zip".toList = ["a.zip"] := by decide +kernel
  have hresolve : ({} : FileTree).resolve .follow ⟨"a.zip"⟩ = .error .notFound := by
    unfold FileTree.resolve
    simp only [hpieces]
    rw [FileTree.follow]
    decide +kernel
  unfold FileTree.node FileTree.find
  rw [hresolve]
  rfl

/-- The second buffer is too long, and there is no file at the path. -/
theorem zipScanner_accounts :
    (∃ final, ((zipScanner 2).scanBuffers (fun _ => false)
        [⟨#[80, 75]⟩, ⟨#[80, 75, 3, 4]⟩, ⟨#[]⟩]).result = .ok final ∧
      final.filesProcessed = 2 ∧
      ((zipScanner 2).scanBuffers (fun _ => false)
          [⟨#[80, 75]⟩, ⟨#[80, 75, 3, 4]⟩, ⟨#[]⟩]).events.filter Event.isAboutItem =
        [.runWarning "buffer #1: 4 bytes exceeds the 3 byte ceiling, skipped"]) ∧
    ∃ final, ((zipScanner 2).scanPaths {} (fun _ => false) [⟨"a.zip"⟩]).result = .ok final ∧
      final.filesProcessed = 0 ∧
      ((zipScanner 2).scanPaths {} (fun _ => false) [⟨"a.zip"⟩]).events.filter Event.isAboutItem =
        [.pathWarning ⟨"a.zip"⟩ "cannot stat: No such file or directory (os error 2)"] := by
  obtain ⟨hbuffers, hpaths, hfaults⟩ := Scanner.run_accounts (zipScanner 2) fun _ => false
  constructor
  · obtain ⟨final, hresult⟩ := exists_result_zipScanner (isAdditive_visitBuffer 3) 2
      [⟨#[80, 75]⟩, ⟨#[80, 75, 3, 4]⟩, ⟨#[]⟩]
    have haccounts := hbuffers _ final hresult
    exact ⟨final, hresult, haccounts.counted.trans (by decide +kernel),
      haccounts.warnings.trans (by decide +kernel)⟩
  · obtain ⟨final, hresult⟩ := exists_result_zipScanner (settles_visitPath {} 3).additive 2
      [⟨"a.zip"⟩]
    have haccounts := hpaths {} _ final hresult
    have hwarning := (hfaults {} ⟨"a.zip"⟩).1 _ (.unknown node_of_no_tree)
    have hwarnings : [(⟨"a.zip"⟩ : Path)].mapIdx (fun _ path => ({} : FileTree).warning? 3 path) =
        [some (.pathWarning ⟨"a.zip"⟩ "cannot stat: No such file or directory (os error 2)")] :=
      congrArg (fun warning => [warning]) hwarning
    exact ⟨final, hresult, haccounts.counted.trans (congrArg (List.countP (·.isNone)) hwarnings),
      haccounts.warnings.trans (congrArg List.reduceOption hwarnings)⟩

end FormatScan
