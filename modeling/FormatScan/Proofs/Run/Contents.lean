import FormatScan.Proofs.Fallible
import FormatScan.Proofs.FileTree.Resolve
import FormatScan.Proofs.Run.Accounting
import FormatScan.Proofs.Run.Interleaving
import Mathlib.Data.List.Forall2

/-!
# Files and their contents

A run over files that can all be read goes as a run over the buffers that hold their bytes. The two
visits do the same to the statistics and tell of the same items, if in other words, and whatever two
visits do alike whole runs do alike.
-/

namespace FormatScan

variable {α β : Type} {visit : Visit α} {visit' : Visit β} {related : α → β → Prop}
  {alike : Event → Event → Prop} {refuses : Event → Bool} {told told' : List Event}
  {items : List α} {items' : List β}

/-! ### Visits that go alike -/

/-- Visits to two kinds of items that do the same to the statistics and tell alike of items that are
related. -/
def Visit.Mirrors (visit : Visit α) (visit' : Visit β) (related : α → β → Prop)
    (alike : Event → Event → Prop) : Prop :=
  ∀ engine index stats {item item'}, related item item' →
    (visit engine index item stats).1 = (visit' engine index item' stats).1 ∧
      List.Forall₂ alike (visit engine index item stats).2 (visit' engine index item' stats).2

structure WorkerOutcome.Alike (alike : Event → Event → Prop) (o o' : WorkerOutcome) : Prop where
  result : o.result = o'.result
  events : List.Forall₂ alike o.events o'.events
  handled : o.handled = o'.handled

structure RunOutcome.Alike (alike : Event → Event → Prop) (o o' : RunOutcome) : Prop where
  result : o.result = o'.result
  progress : o.progress = o'.progress
  events : List.Forall₂ alike o.events o'.events

/-! ### Lists whose items are related -/

section

variable {γ δ ε : Type} {R : γ → δ → Prop} {xs : List γ} {ys : List δ}

theorem map_eq_of_forall₂ {f : γ → ε} {g : δ → ε} (hsame : ∀ x y, R x y → f x = g y)
    (hrelated : List.Forall₂ R xs ys) : xs.map f = ys.map g := by
  rw [← List.forall₂_eq_eq_eq, List.forall₂_map_left_iff, List.forall₂_map_right_iff]
  exact hrelated.imp hsame

theorem any_eq_of_forall₂ {f : γ → Bool} {g : δ → Bool} (hsame : ∀ x y, R x y → f x = g y)
    (hrelated : List.Forall₂ R xs ys) : xs.any f = ys.any g := by
  have hmap := congrArg (List.any · id) (map_eq_of_forall₂ hsame hrelated)
  simpa only [List.any_map, Function.id_comp] using hmap

theorem countP_eq_of_forall₂ {f : γ → Bool} {g : δ → Bool} (hsame : ∀ x y, R x y → f x = g y)
    (hrelated : List.Forall₂ R xs ys) : xs.countP f = ys.countP g := by
  have hmap := congrArg (List.countP id) (map_eq_of_forall₂ hsame hrelated)
  simpa only [List.countP_map, Function.id_comp] using hmap

theorem forall₂_mapIdx {α : Type} {f : Nat → α → γ} {g : Nat → α → δ}
    (hrelated : ∀ i x, R (f i x) (g i x)) (items : List α) :
    List.Forall₂ R (items.mapIdx f) (items.mapIdx g) := by
  induction items generalizing f g with
  | nil => exact .nil
  | cons item rest ih =>
      rw [List.mapIdx_cons, List.mapIdx_cons]
      exact .cons (hrelated 0 item) (ih fun i => hrelated (i + 1))

end

/-! ### Runs whose visits go alike -/

namespace Worker

section

variable (hrefuses : ∀ e e', alike e e' → refuses e = refuses e')

include hrefuses

theorem forall₂_accepted (htold : List.Forall₂ alike told told') :
    List.Forall₂ alike (accepted refuses told) (accepted refuses told') := by
  unfold accepted
  induction htold with
  | nil => exact .nil
  | cons halike _ ih =>
      rw [List.takeWhile_cons, List.takeWhile_cons, hrefuses _ _ halike]
      split
      · exact .cons halike ih
      · exact .nil

variable (hmirrors : visit.Mirrors visit' related alike)
  (hitems : List.Forall₂ related items items')

include hmirrors hitems

theorem visitAll_alike (worker : Nat) (engine : Engine) (first : Nat) (stats : Stats) :
    (visitAll visit refuses worker engine first stats items).Alike alike
      (visitAll visit' refuses worker engine first stats items') := by
  induction hitems generalizing first stats with
  | nil => exact ⟨rfl, .nil, rfl⟩
  | @cons item item' _ _ hitem _ ih =>
      obtain ⟨hstats, htold⟩ := hmirrors engine first stats hitem
      rw [visitAll, visitAll]
      simp only [any_eq_of_forall₂ hrefuses htold, hstats]
      split
      · exact ⟨rfl, forall₂_accepted hrefuses htold, rfl⟩
      · have hrest := ih (first + 1) (visit' engine first item' stats).1
        exact ⟨hrest.result, List.rel_append htold hrest.events, congrArg (· + 1) hrest.handled⟩

theorem run_alike (hrefl : ∀ e, alike e e) (preparation : Preparation) (worker first : Nat) :
    (run visit refuses preparation worker first items).Alike alike
      (run visit' refuses preparation worker first items') := by
  have hsame (events : List Event) : List.Forall₂ alike events events :=
    List.forall₂_same.2 fun e _ => hrefl e
  rw [run_eq, run_eq]
  split
  · exact ⟨rfl, hsame _, rfl⟩
  · split
    · exact ⟨rfl, hsame _, rfl⟩
    · have hafter := visitAll_alike hrefuses hmirrors hitems worker preparation.engine first .empty
      exact ⟨hafter.result, List.rel_append (hsame _) hafter.events, hafter.handled⟩

end

end Worker

namespace Scanner

/-- What visits do alike, runs do alike: the workers get related parts, and fail or go through them
alike. -/
theorem run_alike (scanner : Scanner) (hrefuses : ∀ e e', alike e e' → refuses e = refuses e')
    (hrefl : ∀ e, alike e e) (hmirrors : visit.Mirrors visit' related alike)
    (hitems : List.Forall₂ related items items') :
    (scanner.run visit refuses items).Alike alike (scanner.run visit' refuses items') := by
  have hworkers : List.Forall₂ (WorkerOutcome.Alike alike)
      (scanner.run visit refuses items).workers (scanner.run visit' refuses items').workers := by
    rw [run_workers, run_workers, outcomes, outcomes, hitems.length_eq]
    refine forall₂_mapIdx (fun worker range => ?_) _
    have hpart : List.Forall₂ related (range.slice items) (range.slice items') :=
      List.forall₂_take _ (List.forall₂_drop _ hitems)
    exact Worker.run_alike hrefuses hmirrors hpart hrefl scanner.preparation worker range.start
  have hresult : (scanner.run visit refuses items).result =
      (scanner.run visit' refuses items').result := by
    rw [run_result_eq, run_result_eq, ← map_result_outcomes, ← map_result_outcomes, ← run_workers,
      ← run_workers, map_eq_of_forall₂ (fun _ _ halike => halike.result) hworkers]
  have hclosing : (scanner.run visit refuses items).closing =
      (scanner.run visit' refuses items').closing := by
    rw [run_closing, run_closing, hresult, hitems.length_eq]
  refine ⟨hresult, ?_, ?_⟩
  · rw [progress_eq_sum, progress_eq_sum,
      map_eq_of_forall₂ (fun _ _ halike => halike.handled) hworkers]
  · refine List.rel_append (List.rel_flatMap hworkers fun _ _ halike => halike.events) ?_
    rw [hclosing]
    exact List.forall₂_same.2 fun e _ => hrefl e

end Scanner

/-! ### Files that can be read -/

namespace FileTree

variable {tree : FileTree} {path : Path} {bytes : ByteArray} {content : Content}

def Holds (tree : FileTree) (path : Path) (bytes : ByteArray) : Prop :=
  ∃ content, tree.read path = .ok content ∧ content.map = .ok bytes

theorem node_of_read (hread : tree.read path = .ok content) :
    tree.node path = .ok (.file content false) := by
  unfold read at hread
  obtain ⟨node, hnode, hcontent⟩ := bind_eq_ok.1 hread
  rw [hnode]
  split at hcontent
  · rw [Except.ok.inj hcontent]
  · cases hcontent
  · cases hcontent

end FileTree

theorem Content.size_of_map {content : Content} {bytes : ByteArray}
    (hmap : content.map = .ok bytes) : content.size = bytes.size := by
  cases content with
  | bytes data => rw [← Except.ok.inj hmap, size]
  | zeros count => rw [← Except.ok.inj hmap, size, ByteArray.size, Array.size_replicate]
  | unmappable count reason => cases hmap

theorem visitPath_of_holds {tree : FileTree} {path : Path} {bytes : ByteArray}
    (hholds : tree.Holds path bytes) (limit : Nat) (engine : Engine) (index : Nat)
    (stats : Stats) :
    visitPath tree limit engine index path stats =
      if bytes.size = 0 then (stats.fileProcessed, [])
      else if limit < bytes.size then
        (stats, [.pathWarning path (ceilingText bytes.size limit)])
      else (engine.scanFile bytes stats, []) := by
  obtain ⟨content, hread, hmap⟩ := hholds
  unfold visitPath
  simp only [FileTree.node_of_read hread, hread, hmap, Content.size_of_map hmap]

/-- The warnings about one item that is too long, whether it is a file or a buffer; every other
event is like itself alone. -/
inductive SameWarning (limit : Nat) : Event → Event → Prop
  | refl (event : Event) : SameWarning limit event event
  | tooLong (path : Path) (index size : Nat) :
      SameWarning limit (.pathWarning path (ceilingText size limit))
        (.runWarning ("buffer #" ++ toString index ++ ": " ++ ceilingText size limit))

/-- A visit to a file is a visit to its bytes. -/
theorem mirrors_visitPath (tree : FileTree) (limit : Nat) :
    (visitPath tree limit).Mirrors (visitBuffer limit) tree.Holds (SameWarning limit) := by
  intro engine index stats path bytes hholds
  rw [visitPath_of_holds hholds, visitBuffer]
  split
  · exact ⟨rfl, .nil⟩
  · split
    · exact ⟨rfl, .cons (.tooLong path index bytes.size) .nil⟩
    · exact ⟨rfl, .nil⟩

/-! ### The warnings about items that are too long -/

def Event.isCeilingWarning (event : Event) : Bool :=
  event.isAboutItem &&
    " byte ceiling, skipped".toList.isSuffixOf event.message.toList

theorem suffix_ceilingText (front : String) (size limit : Nat) :
    " byte ceiling, skipped".toList <:+ (front ++ ceilingText size limit).toList := by
  unfold ceilingText
  rw [String.toList_append, String.toList_append]
  exact (List.suffix_append _ _).trans (List.suffix_append _ _)

theorem SameWarning.isCeilingWarning (limit : Nat) (e e' : Event) (hsame : SameWarning limit e e') :
    e.isCeilingWarning = e'.isCeilingWarning := by
  cases hsame with
  | refl => rfl
  | tooLong path index size =>
      have hpath := List.isSuffixOf_iff_suffix.2 (suffix_ceilingText "" size limit)
      have hbuffer := List.isSuffixOf_iff_suffix.2
        (suffix_ceilingText ("buffer #" ++ toString index ++ ": ") size limit)
      rw [String.empty_append] at hpath
      simp only [Event.isCeilingWarning, Event.pathWarning, Event.runWarning, hpath, hbuffer]
      rfl

/-- A run over files that can all be read and a run over their contents come to the same result,
count as many items and tell of as many that are too long, as far as nobody takes the one kind of
warning and not the other. This is so whatever the order in which the workers take their steps. -/
theorem Scanner.scanPaths_eq_scanBuffers (scanner : Scanner) (tree : FileTree)
    (refuses : Event → Bool) {paths : List Path} {buffers : List ByteArray}
    (hholds : List.Forall₂ tree.Holds paths buffers)
    (hrefuses : ∀ e e', SameWarning scanner.config.maxFileSize e e' → refuses e = refuses e') :
    (scanner.scanPaths tree refuses paths).Alike (SameWarning scanner.config.maxFileSize)
        (scanner.scanBuffers refuses buffers) ∧
      (scanner.scanPaths tree refuses paths).events.countP Event.isCeilingWarning =
        (scanner.scanBuffers refuses buffers).events.countP Event.isCeilingWarning ∧
      ∀ counter counter' last last',
        scanner.Executes (visitPath tree scanner.config.maxFileSize) refuses counter paths last →
        scanner.Executes (visitBuffer scanner.config.maxFileSize) refuses counter' buffers last' →
          last.result = last'.result ∧ last.progress = last'.progress ∧
            last.log.countP Event.isCeilingWarning = last'.log.countP Event.isCeilingWarning := by
  have halike : (scanner.scanPaths tree refuses paths).Alike
      (SameWarning scanner.config.maxFileSize) (scanner.scanBuffers refuses buffers) :=
    run_alike scanner hrefuses .refl (mirrors_visitPath tree _) hholds
  have hcount := countP_eq_of_forall₂ (SameWarning.isCeilingWarning _) halike.events
  refine ⟨halike, hcount, ?_⟩
  intro counter counter' last last' hpaths hbuffers
  obtain ⟨-, hresult, hprogress, hlog⟩ := executes_agrees hpaths
  obtain ⟨-, hresult', hprogress', hlog'⟩ := executes_agrees hbuffers
  refine ⟨?_, ?_, ?_⟩
  · rw [hresult, hresult']
    exact halike.result
  · rw [hprogress, hprogress']
    exact halike.progress
  · rw [hlog.countP_eq, hlog'.countP_eq]
    exact hcount

/-! ### Four files around the limit -/

theorem FileTree.read_child {entries : List (String × Node)} {name : String} {content : Content}
    (hchild : (Node.directory entries false).child? name = some (.file content false))
    (hplain : IsPlain name) :
    ({ root := .directory entries false } : FileTree).read ⟨name⟩ = .ok content := by
  rw [read, node_child _ hchild nofun hplain]
  rfl

def samples : FileTree where
  root := .directory
    [("empty", .file (.bytes ⟨#[]⟩) false), ("short", .file (.bytes ⟨#[80, 75]⟩) false),
      ("full", .file (.bytes ⟨#[80, 75, 3]⟩) false), ("long", .file (.zeros 4) false)] false

def samplePaths : List Path := [⟨"empty"⟩, ⟨"short"⟩, ⟨"full"⟩, ⟨"long"⟩]

def sampleBuffers : List ByteArray := [⟨#[]⟩, ⟨#[80, 75]⟩, ⟨#[80, 75, 3]⟩, ⟨#[0, 0, 0, 0]⟩]

theorem holds_samples : List.Forall₂ samples.Holds samplePaths sampleBuffers := by
  refine .cons ⟨.bytes ⟨#[]⟩, ?_, rfl⟩ (.cons ⟨.bytes ⟨#[80, 75]⟩, ?_, rfl⟩
    (.cons ⟨.bytes ⟨#[80, 75, 3]⟩, ?_, rfl⟩ (.cons ⟨.zeros 4, ?_, rfl⟩ .nil)))
  all_goals exact FileTree.read_child rfl (by decide +kernel)

theorem scanPaths_eq_scanBuffers_samples :
    List.Forall₂ samples.Holds samplePaths sampleBuffers ∧
      ((zipScanner 2).scanPaths samples (fun _ => false) samplePaths).result =
        ((zipScanner 2).scanBuffers (fun _ => false) sampleBuffers).result ∧
      ((zipScanner 2).scanPaths samples (fun _ => false) samplePaths).progress = 4 ∧
      ((zipScanner 2).scanPaths samples (fun _ => false) samplePaths).events.countP
        Event.isCeilingWarning = 1 := by
  obtain ⟨halike, hcount, -⟩ := Scanner.scanPaths_eq_scanBuffers (zipScanner 2) samples
    (fun _ => false) holds_samples fun _ _ _ => rfl
  exact ⟨holds_samples, halike.result, halike.progress.trans (by decide +kernel),
    hcount.trans (by decide +kernel)⟩

end FormatScan
