import FormatScan.Proofs.Counts.Merge
import FormatScan.Stats
import Mathlib.Algebra.GroupWithZero.Nat

/-!
# Statistics that are added up

Merging is commutative and associative up to the names counted for the current file, which are
nobody's business once a file is done. `beginFile` forgets those names, so that equality of what is
left is equality of what counts.
-/

namespace FormatScan.Stats

variable {a b c s base : Stats} {name : String}

/-- What no step of a pass changes is the same behind the pass. -/
theorem foldl_eq_of_mem {α β : Type} (of : Stats → β) {step : Stats → α → Stats} {items : List α}
    (hstep : ∀ item ∈ items, ∀ s, of (step s item) = of s) (s : Stats) :
    of (items.foldl step s) = of s := by
  induction items generalizing s with
  | nil => rfl
  | cons item rest ih =>
      rw [List.foldl_cons, ih fun x hx => hstep x (List.mem_cons_of_mem _ hx),
        hstep item List.mem_cons_self]

@[simp]
theorem merge_beginFile (a b : Stats) : a.merge b.beginFile = a.merge b := rfl

@[simp]
theorem beginFile_merge (a b : Stats) : a.beginFile.merge b = (a.merge b).beginFile := rfl

@[simp]
theorem beginFile_beginFile (s : Stats) : s.beginFile.beginFile = s.beginFile := rfl

@[simp]
theorem beginFile_empty : empty.beginFile = empty := rfl

@[simp]
theorem merge_empty (a : Stats) : a.merge empty = a := rfl

theorem empty_merge (a : Stats) : empty.merge a = a.beginFile := by
  simp only [merge, empty, beginFile, Counts.empty_merge, Nat.zero_add]

theorem merge_assoc (a b c : Stats) : (a.merge b).merge c = a.merge (b.merge c) := by
  simp only [merge, Counts.merge_assoc, Nat.add_assoc]

theorem merge_right_comm (a b c : Stats) : (a.merge b).merge c = (a.merge c).merge b := by
  simp only [merge, Counts.merge_right_comm _ b.counts, Counts.merge_right_comm _ b.embedded,
    Nat.add_right_comm _ b.filesProcessed]

theorem count_merge (a b : Stats) (name : String) :
    (a.merge b).count name = a.count name + b.count name :=
  Counts.count_merge a.counts b.counts name

/-! ### Merging a whole list -/

/-- Merging one by one is merging with the sum. -/
theorem foldl_merge (a : Stats) (parts : List Stats) :
    parts.foldl merge a = a.merge (mergeAll parts) := by
  induction parts generalizing a with
  | nil => rfl
  | cons part rest ih =>
      have hrest : mergeAll (part :: rest) = (empty.merge part).merge (mergeAll rest) := ih _
      rw [List.foldl_cons, ih, hrest, empty_merge, beginFile_merge, merge_beginFile, merge_assoc]

theorem mergeAll_cons (part : Stats) (rest : List Stats) :
    mergeAll (part :: rest) = part.beginFile.merge (mergeAll rest) := by
  rw [mergeAll, List.foldl_cons, foldl_merge, empty_merge]

theorem beginFile_mergeAll (parts : List Stats) : (mergeAll parts).beginFile = mergeAll parts := by
  cases parts with
  | nil => rfl
  | cons part rest => rw [mergeAll_cons, ← beginFile_merge, beginFile_beginFile]

theorem mergeAll_append (front back : List Stats) :
    mergeAll (front ++ back) = (mergeAll front).merge (mergeAll back) := by
  rw [mergeAll, List.foldl_append, foldl_merge]
  rfl

/-- Adding up within each group and then over the groups is adding up everything. -/
theorem mergeAll_flatten (groups : List (List Stats)) :
    mergeAll (groups.map mergeAll) = mergeAll groups.flatten := by
  induction groups with
  | nil => rfl
  | cons group rest ih =>
      rw [List.map_cons, mergeAll_cons, ih, List.flatten_cons, mergeAll_append, beginFile_mergeAll]

theorem mergeAll_perm {parts parts' : List Stats} (hperm : parts.Perm parts') :
    mergeAll parts = mergeAll parts' :=
  hperm.foldl_eq' (fun x _ y _ z => merge_right_comm z x y) empty

theorem mergeAll_map_beginFile (parts : List Stats) :
    mergeAll (parts.map beginFile) = mergeAll parts := by
  induction parts with
  | nil => rfl
  | cons part rest ih => rw [List.map_cons, mergeAll_cons, mergeAll_cons, ih, beginFile_beginFile]

theorem count_mergeAll (parts : List Stats) (name : String) :
    (mergeAll parts).count name = (parts.map fun part => part.count name).sum := by
  induction parts with
  | nil => rfl
  | cons part rest ih =>
      rw [mergeAll_cons, count_merge, ih, List.map_cons, List.sum_cons]
      rfl

/-! ### Counting on top of what was there

What happens within a file depends on the names it has shown, not on the counts that were there
before it. -/

/-- Statistics of a file, counted on top of those of the files before it. -/
def onto (s base : Stats) : Stats := { base.merge s with detected := s.detected }

/-- Counting a file on top of others is merging, up to the names that the file has shown. -/
theorem beginFile_onto (s base : Stats) : (s.onto base).beginFile = (base.merge s).beginFile := rfl

theorem empty_onto (base : Stats) : empty.onto base = base.beginFile := rfl

theorem fileProcessed_onto (s base : Stats) :
    (s.onto base).fileProcessed = s.fileProcessed.onto base := rfl

end FormatScan.Stats
