import FormatScan.Proofs.Stats.History
import FormatScan.Proofs.Stats.Names

/-!
# The algebra of merging

Two statistics are the same when they have the same entries and the same number of files; an entry
of zero is an entry, and the names of the current file do not matter. Up to this, merging is
commutative and associative with the empty statistics as its unit, so that several parts may be
merged in any order and grouping. What is merged into statistics makes no later detection a new one
and none an old one.
-/

namespace FormatScan.Stats

variable {a b c s t : Stats} {parts : List Stats} {name : String}

/-! ### Being the same -/

/-- Statistics are the same if they are equal at the beginning of the next file. -/
theorem same_iff_beginFile_eq : a.same b ↔ a.beginFile = b.beginFile := by
  simp only [same, Bool.and_eq_true, beq_iff_eq, beginFile, mk.injEq, true_and]
  tauto

/-- Statistics are the same if their entries and their numbers of files are. -/
theorem same_iff : a.same b ↔
    (∀ name, a.counts.get? name = b.counts.get? name) ∧
      (∀ name, a.embedded.get? name = b.embedded.get? name) ∧
      a.filesProcessed = b.filesProcessed := by
  simp only [same, Bool.and_eq_true, beq_iff_eq, and_assoc]
  constructor
  · rintro ⟨hcounts, hembedded, hfiles⟩
    exact ⟨fun name => by rw [hcounts], fun name => by rw [hembedded], hfiles⟩
  · rintro ⟨hcounts, hembedded, hfiles⟩
    exact ⟨Counts.ext_get? hcounts, Counts.ext_get? hembedded, hfiles⟩

theorem same_of_eq (heq : a = b) : a.same b := same_iff_beginFile_eq.2 (by rw [heq])

theorem same_merge_comm (a b : Stats) : (a.merge b).same (b.merge a) := by
  rw [same_iff_beginFile_eq]
  simp only [merge, beginFile, Counts.merge_comm b.counts, Counts.merge_comm b.embedded,
    Nat.add_comm b.filesProcessed]

theorem same_empty_merge (a : Stats) : (empty.merge a).same a := by
  rw [same_iff_beginFile_eq, empty_merge, beginFile_beginFile]

/-! ### Many parts -/

/-- Parts may be merged in groups, and the groups in any order. -/
theorem same_mergeAll_groups {groups : List (List Stats)} (hperm : groups.flatten.Perm parts) :
    (mergeAll (groups.map mergeAll)).same (mergeAll parts) := by
  rw [mergeAll_flatten, mergeAll_perm hperm]
  exact same_of_eq rfl

/-- No entry of a sum comes from nowhere, and none of a part is lost; `of` takes the entries that
are meant, embedded ones or not. -/
theorem mem_names_mergeAll {of : Stats → Counts} (hempty : of empty = ∅)
    (hmerge : ∀ a b, of (a.merge b) = (of a).merge (of b)) (parts : List Stats) (name : String) :
    name ∈ (of (mergeAll parts)).names ↔ ∃ part ∈ parts, name ∈ (of part).names := by
  induction parts using List.reverseRecOn with
  | nil =>
      rw [mergeAll, List.foldl_nil, hempty]
      exact iff_of_false List.not_mem_nil (by simp)
  | append_singleton parts last ih =>
      have hlast : mergeAll (parts ++ [last]) = (mergeAll parts).merge last :=
        List.foldl_concat ..
      rw [hlast, hmerge, Counts.mem_names_merge, ih]
      simp only [List.mem_append, List.mem_singleton, or_and_right, exists_or, exists_eq_left]

/-! ### Later steps -/

/-- A step goes by the names of the current file alone when it changes them. -/
theorem detected_step_congr (hdetected : s.detected = t.detected) (next : Step) :
    (s.step next).detected = (t.step next).detected := by
  cases next with
  | beginFile => rfl
  | resetAll => rfl
  | fileProcessed => exact hdetected
  | record name =>
      show (s.recorded name).detected = (t.recorded name).detected
      by_cases hmem : name ∈ s.detected
      · rw [recorded_of_mem hmem, recorded_of_mem (hdetected ▸ hmem), hdetected]
      · rw [recorded_of_notMem hmem, recorded_of_notMem (hdetected ▸ hmem), hdetected]

theorem detected_foldl_step_congr (hdetected : s.detected = t.detected) (later : List Step) :
    (later.foldl step s).detected = (later.foldl step t).detected := by
  induction later generalizing s t with
  | nil => exact hdetected
  | cons next rest ih => exact ih (detected_step_congr hdetected next)

/-- A merge leaves alone what has been recorded for the current file. -/
theorem fst_record_foldl_step_merge (a b : Stats) (later : List Step) (name : String) :
    ((later.foldl step (a.merge b)).record name).1 = ((later.foldl step a).record name).1 := by
  have hdetected : (a.merge b).detected = a.detected := rfl
  rw [Bool.eq_iff_iff, fst_record_iff, fst_record_iff, detected_foldl_step_congr hdetected later]

/-! ### Merging as an operation -/

/-- Parts may be merged in any order, in any grouping and group by group; a sum has an entry exactly
for the names of which a part has one; and whatever is done later, records are answered as if
nothing had been merged in. -/
theorem merge_same_any_order_any_grouping (a b c : Stats) (parts : List Stats) :
    (a.same b ↔ (∀ name, a.counts.get? name = b.counts.get? name) ∧
        (∀ name, a.embedded.get? name = b.embedded.get? name) ∧
        a.filesProcessed = b.filesProcessed) ∧
      (a.merge b).same (b.merge a) ∧
      ((a.merge b).merge c).same (a.merge (b.merge c)) ∧
      (a.merge empty).same a ∧ (empty.merge a).same a ∧
      (∀ permuted, permuted.Perm parts → (mergeAll permuted).same (mergeAll parts)) ∧
      (∀ groups : List (List Stats), groups.flatten.Perm parts →
        (mergeAll (groups.map mergeAll)).same (mergeAll parts)) ∧
      (∀ front back, front ++ back = parts →
        ((mergeAll front).merge (mergeAll back)).same (mergeAll parts)) ∧
      (∀ name, name ∈ (mergeAll parts).counts.names ↔ ∃ part ∈ parts, name ∈ part.counts.names) ∧
      (∀ name, name ∈ (mergeAll parts).embedded.names ↔
        ∃ part ∈ parts, name ∈ part.embedded.names) ∧
      ∀ (later : List Step) (name : String), ((later.foldl step (a.merge b)).record name).1 =
        ((later.foldl step a).record name).1 := by
  refine ⟨same_iff, same_merge_comm a b, same_of_eq (merge_assoc a b c),
    same_of_eq (merge_empty a), same_empty_merge a, ?permuted, fun _ => same_mergeAll_groups,
    ?split, mem_names_mergeAll rfl (fun _ _ => rfl) parts,
    mem_names_mergeAll rfl (fun _ _ => rfl) parts, fst_record_foldl_step_merge a b⟩
  case permuted =>
    intro permuted hperm
    exact same_of_eq (mergeAll_perm hperm)
  case split =>
    intro front back happend
    rw [← mergeAll_append, happend]
    exact same_of_eq rfl

def emptyArchive : Stats :=
  { counts := .ofList [("ZIP", 0)], detected := ["ZIP"], filesProcessed := 1 }

def twoPictures : Stats :=
  { counts := .ofList [("PNG", 2), ("ZIP", 1)], embedded := .ofList [("XML", 3)],
    filesProcessed := 2 }

theorem merge_same_any_order_any_grouping_emptyArchive :
    ¬emptyArchive.same empty ∧
      (emptyArchive.merge twoPictures).same (twoPictures.merge emptyArchive) ∧
      (mergeAll [twoPictures, empty, emptyArchive]).same
        (mergeAll [emptyArchive, twoPictures, empty]) ∧
      (mergeAll [mergeAll [empty, emptyArchive], mergeAll [], mergeAll [twoPictures]]).same
        (mergeAll [emptyArchive, twoPictures, empty]) ∧
      ((mergeAll [emptyArchive]).merge (mergeAll [twoPictures, empty])).same
        (mergeAll [emptyArchive, twoPictures, empty]) ∧
      "ZIP" ∈ (mergeAll [emptyArchive, empty]).counts.names ∧
      (((emptyArchive.merge twoPictures).recorded "PNG").record "ZIP").1 = false := by
  obtain ⟨hsame, hcomm, -, -, -, hpermuted, hgroups, hsplit, -, -, hlater⟩ :=
    merge_same_any_order_any_grouping emptyArchive twoPictures empty
      [emptyArchive, twoPictures, empty]
  obtain ⟨hempty, -, -, -, -, -, -, -, hnames, -⟩ :=
    merge_same_any_order_any_grouping emptyArchive empty empty [emptyArchive, empty]
  have hrotated : ([twoPictures, empty] ++ [emptyArchive]).Perm
      ([emptyArchive] ++ [twoPictures, empty]) :=
    List.perm_append_comm
  refine ⟨?_, hcomm, hpermuted _ hrotated, hgroups [[empty, emptyArchive], [], [twoPictures]] ?_,
    hsplit [emptyArchive] [twoPictures, empty] rfl, ?_, ?_⟩
  · rw [hempty]
    intro hentries
    exact absurd (hentries.1 "ZIP") (by decide +kernel)
  · exact (List.Perm.swap _ _ _).trans ((List.Perm.swap _ _ _).cons _)
  · exact (hnames "ZIP").2 ⟨emptyArchive, List.mem_cons_self, by decide +kernel⟩
  · exact (hlater [.record "PNG"] "ZIP").trans (by decide +kernel)

end FormatScan.Stats
