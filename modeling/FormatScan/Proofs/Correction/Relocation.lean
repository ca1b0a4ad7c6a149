import FormatScan.Proofs.Correction.Exclusion
import FormatScan.Proofs.Stats.Width

/-!
# Moving what is embedded

The pass goes through two lists, one name after the other, and the second list asks for counts that
the first one may have changed. What it does all the same is to move the entries of certain names at
once: which names these are is told by the statistics in front of the pass. So neither the order of
the lists nor what they repeat has a part in it, and behind the pass there is nothing left to move.
-/

namespace FormatScan.Stats

variable {policy policy' : ContainerPolicy} {moved moved' : String → Prop}
  {before between after after' s : Stats} {name other : String}

def detections (s : Stats) (name : String) : Nat := s.count name + s.embeddedCount name

/-- What becomes of statistics when the entries of the `moved` names go to the embedded ones, where
each is added to the entry that is there. -/
structure Relocates (moved : String → Prop) (before after : Stats) : Prop where
  gone (name : String) (hmoved : moved name) : after.counts.get? name = none
  added (name : String) (hmoved : moved name) : after.embedded.get? name =
    Option.merge (· + ·) (before.embedded.get? name) (before.counts.get? name)
  counts_kept (name : String) (hkept : ¬moved name) :
    after.counts.get? name = before.counts.get? name
  embedded_kept (name : String) (hkept : ¬moved name) :
    after.embedded.get? name = before.embedded.get? name
  filesProcessed : after.filesProcessed = before.filesProcessed
  detected : after.detected = before.detected

namespace Relocates

theorem nothing (s : Stats) : Relocates (fun _ => False) s s where
  gone _ := False.elim
  added _ := False.elim
  counts_kept _ _ := rfl
  embedded_kept _ _ := rfl
  filesProcessed := rfl
  detected := rfl

theorem congr (hrelocates : Relocates moved before after)
    (hmoved : ∀ name, moved name ↔ moved' name) : Relocates moved' before after := by
  have heq : moved = moved' := by
    funext name
    exact propext (hmoved name)
  rwa [← heq]

/-- A name that both moves want has nothing left for the second one. -/
theorem trans (hfirst : Relocates moved before between)
    (hsecond : Relocates moved' between after) :
    Relocates (fun name => moved name ∨ moved' name) before after where
  gone name hmoved := by
    by_cases hlast : moved' name
    · exact hsecond.gone name hlast
    · rw [hsecond.counts_kept name hlast]
      exact hfirst.gone name (hmoved.resolve_right hlast)
  added name hmoved := by
    by_cases hlast : moved' name
    · rw [hsecond.added name hlast]
      by_cases hsooner : moved name
      · rw [hfirst.gone name hsooner, Option.merge_none_right, hfirst.added name hsooner]
      · rw [hfirst.counts_kept name hsooner, hfirst.embedded_kept name hsooner]
    · rw [hsecond.embedded_kept name hlast]
      exact hfirst.added name (hmoved.resolve_right hlast)
  counts_kept name hkept := by
    rw [not_or] at hkept
    rw [hsecond.counts_kept name hkept.2, hfirst.counts_kept name hkept.1]
  embedded_kept name hkept := by
    rw [not_or] at hkept
    rw [hsecond.embedded_kept name hkept.2, hfirst.embedded_kept name hkept.1]
  filesProcessed := hsecond.filesProcessed.trans hfirst.filesProcessed
  detected := hsecond.detected.trans hfirst.detected

/-- Which names are moved says all. -/
theorem unique (hafter : Relocates moved before after) (hafter' : Relocates moved before after') :
    after = after' := by
  have hcounts : after.counts = after'.counts := by
    apply Counts.ext_get?
    intro name
    by_cases hmoved : moved name
    · rw [hafter.gone name hmoved, hafter'.gone name hmoved]
    · rw [hafter.counts_kept name hmoved, hafter'.counts_kept name hmoved]
  have hembedded : after.embedded = after'.embedded := by
    apply Counts.ext_get?
    intro name
    by_cases hmoved : moved name
    · rw [hafter.added name hmoved, hafter'.added name hmoved]
    · rw [hafter.embedded_kept name hmoved, hafter'.embedded_kept name hmoved]
  have hdetected := hafter.detected.trans hafter'.detected.symm
  have hfiles := hafter.filesProcessed.trans hafter'.filesProcessed.symm
  obtain ⟨counts, embedded, detected, filesProcessed⟩ := after
  obtain ⟨counts', embedded', detected', filesProcessed'⟩ := after'
  subst hcounts hembedded hdetected hfiles
  rfl

/-- Names without an entry can be moved to no effect. -/
theorem eq_of_no_entry (hrelocates : Relocates moved before after)
    (hnone : ∀ name, moved name → before.counts.get? name = none) : after = before := by
  apply hrelocates.unique
  refine ⟨hnone, ?_, fun _ _ => rfl, fun _ _ => rfl, rfl, rfl⟩
  intro name hmoved
  rw [hnone name hmoved, Option.merge_none_right]

theorem count_of_not_moved (hrelocates : Relocates moved before after) (hkept : ¬moved name) :
    after.count name = before.count name := by
  rw [count, Counts.count, hrelocates.counts_kept name hkept]
  rfl

/-- Moving an entry changes where its detections are, not how many there are. -/
theorem detections (hrelocates : Relocates moved before after) (name : String) :
    after.detections name = before.detections name := by
  simp only [Stats.detections, count, embeddedCount, Counts.count]
  by_cases hmoved : moved name
  · rw [hrelocates.gone name hmoved, hrelocates.added name hmoved]
    cases before.embedded.get? name <;> cases before.counts.get? name <;> simp [Nat.add_comm]
  · rw [hrelocates.counts_kept name hmoved, hrelocates.embedded_kept name hmoved]

theorem count_le (hrelocates : Relocates moved before after) (name : String) :
    after.count name ≤ before.count name := by
  by_cases hmoved : moved name
  · rw [count, Counts.count, hrelocates.gone name hmoved]
    exact Nat.zero_le _
  · exact Nat.le_of_eq (hrelocates.count_of_not_moved hmoved)

theorem embedded_le (hrelocates : Relocates moved before after) (name : String) :
    before.embeddedCount name ≤ after.embeddedCount name := by
  have hcount := hrelocates.count_le name
  have hdetections := hrelocates.detections name
  simp only [Stats.detections] at hdetections
  omega

/-- The sums are those of the moved names. -/
theorem fits_iff (hrelocates : Relocates moved before after) (hfits : before.Fits) :
    after.Fits ↔ ∀ name, moved name → before.detections name < Counts.limit := by
  obtain ⟨hcounts, hembedded, hfiles⟩ := Stats.fits_iff.1 hfits
  rw [Stats.fits_iff]
  constructor
  · rintro ⟨-, hafter, -⟩ name hmoved
    have hgone : after.count name = 0 := by
      rw [count, Counts.count, hrelocates.gone name hmoved]
      rfl
    rw [← hrelocates.detections name, Stats.detections, hgone, Nat.zero_add]
    exact hafter name
  · intro hroom
    refine ⟨fun name => ?_, fun name => ?_, hrelocates.filesProcessed ▸ hfiles⟩
    · exact Nat.lt_of_le_of_lt (hrelocates.count_le name) (hcounts name)
    · by_cases hmoved : moved name
      · have hle : after.embeddedCount name ≤ after.detections name := Nat.le_add_left _ _
        rw [hrelocates.detections name] at hle
        exact Nat.lt_of_le_of_lt hle (hroom name hmoved)
      · have hkept : after.embeddedCount name = before.embeddedCount name := by
          rw [embeddedCount, Counts.count, hrelocates.embedded_kept name hmoved]
          rfl
        rw [hkept]
        exact hembedded name

/-- Where counts and files can be kept, what is left to see to are the embedded counts, and they
become no less. -/
theorem fits_of_fits (hrelocates : Relocates moved before after) (hcounts : before.counts.Fits)
    (hfits : after.Fits) : before.Fits :=
  ⟨hcounts, Counts.fits_iff.2 fun name =>
    Nat.lt_of_le_of_lt (hrelocates.embedded_le name) (Counts.fits_iff.1 hfits.embedded name),
    hrelocates.filesProcessed ▸ hfits.filesProcessed⟩

theorem counts_fits (hrelocates : Relocates moved before after) (hcounts : before.counts.Fits) :
    after.counts.Fits :=
  Counts.fits_iff.2 fun name =>
    Nat.lt_of_le_of_lt (hrelocates.count_le name) (Counts.fits_iff.1 hcounts name)

end Relocates

/-! ### The two lists -/

theorem relocates_relocate (s : Stats) (other : String) :
    Relocates (other = ·) s (s.relocate other) := by
  unfold relocate
  cases hentry : s.counts.get? other with
  | none =>
      refine ⟨?_, ?_, fun _ _ => rfl, fun _ _ => rfl, rfl, rfl⟩
      · rintro name rfl
        exact hentry
      · rintro name rfl
        rw [hentry, Option.merge_none_right]
  | some n =>
      refine ⟨?_, ?_, ?_, ?_, rfl, rfl⟩
      · rintro name rfl
        rw [Counts.get?_erase, if_pos rfl]
      · rintro name rfl
        rw [Counts.get?_add, if_pos rfl, hentry, Counts.count]
        cases s.embedded.get? other <;> simp
      · intro name hne
        rw [Counts.get?_erase, if_neg hne]
      · intro name hne
        rw [Counts.get?_add, if_neg hne]

theorem relocates_foldl (names : List String) (s : Stats) :
    Relocates (· ∈ names) s (names.foldl relocate s) := by
  induction names generalizing s with
  | nil => exact (Relocates.nothing s).congr (by simp)
  | cons first rest ih =>
      refine ((relocates_relocate s first).trans (ih (s.relocate first))).congr ?_
      intro name
      rw [List.mem_cons, eq_comm]

theorem relocates_ite (threshold : Nat) (s : Stats) (other : String) :
    Relocates (fun name => other = name ∧ threshold < s.count name) s
      (if threshold < s.count other then s.relocate other else s) := by
  by_cases hexceeds : threshold < s.count other
  · rw [if_pos hexceeds]
    refine (relocates_relocate s other).congr fun name => ?_
    exact ⟨fun heq => ⟨heq, heq ▸ hexceeds⟩, And.left⟩
  · rw [if_neg hexceeds]
    refine (Relocates.nothing s).congr fun name => ?_
    exact iff_of_false id fun hmoved => hexceeds (hmoved.1 ▸ hmoved.2)

/-- A turn of the second list leaves the counts of all other names alone, so that each name of the
list is asked for the count that it had in front of the list. -/
theorem relocates_foldl_of_exceeds (threshold : Nat) (names : List String) (s : Stats) :
    Relocates (fun name => name ∈ names ∧ threshold < s.count name) s
      (names.foldl (fun s name => if threshold < s.count name then s.relocate name else s) s) := by
  induction names generalizing s with
  | nil => exact (Relocates.nothing s).congr (by simp)
  | cons first rest ih =>
      have hfirst := relocates_ite threshold s first
      refine (hfirst.trans (ih _)).congr ?_
      intro name
      by_cases hmoved : first = name ∧ threshold < s.count name
      · obtain ⟨rfl, hexceeds⟩ := hmoved
        simp [hexceeds]
      · rw [hfirst.count_of_not_moved hmoved, List.mem_cons, or_and_right, eq_comm]

/-! ### The pass -/

/-- The names whose entries the pass moves, if there is a file of a derived format: those that are
often embedded, and those of a list of their own whose counts exceed the threshold. -/
def Moves (policy : ContainerPolicy) (s : Stats) (name : String) : Prop :=
  (∃ derived ∈ policy.derived, 0 < s.count derived) ∧
    (name ∈ policy.embedded ∨
      name ∈ policy.thresholded ∧ policy.imageThreshold < s.count name)

theorem any_isPresent_iff :
    policy.derived.any s.isPresent = true ↔ ∃ derived ∈ policy.derived, 0 < s.count derived := by
  simp only [List.any_eq_true, isPresent_iff]

theorem relocateEmbedded_of_no_derived (hnone : ∀ name ∈ policy.derived, s.count name = 0) :
    relocateEmbedded policy s = s := by
  rw [relocateEmbedded, if_neg]
  rw [any_isPresent_iff]
  rintro ⟨derived, hderived, hpositive⟩
  exact absurd (hnone derived hderived) (Nat.ne_of_gt hpositive)

/-- The pass moves the names of the first list, and then those of the second one whose counts exceed
the threshold as they were in front of the pass. -/
theorem relocates_relocateEmbedded (policy : ContainerPolicy) (s : Stats) :
    Relocates (Moves policy s) s (relocateEmbedded policy s) := by
  rw [relocateEmbedded]
  by_cases hderived : ∃ derived ∈ policy.derived, 0 < s.count derived
  · rw [if_pos (any_isPresent_iff.2 hderived)]
    have hfirst := relocates_foldl policy.embedded s
    refine (hfirst.trans (relocates_foldl_of_exceeds policy.imageThreshold policy.thresholded
      _)).congr ?_
    intro name
    rw [Moves, and_iff_right hderived]
    by_cases hmem : name ∈ policy.embedded
    · simp [hmem]
    · rw [hfirst.count_of_not_moved hmem]
  · rw [if_neg (mt any_isPresent_iff.1 hderived)]
    refine (Relocates.nothing s).congr ?_
    intro name
    exact iff_of_false id fun hmoves => hderived hmoves.1

/-- What the pass would move once more has no entry any longer. -/
theorem get?_eq_none_of_moves_relocateEmbedded
    (hmoves : Moves policy (relocateEmbedded policy s) name) :
    (relocateEmbedded policy s).counts.get? name = none := by
  have hpass := relocates_relocateEmbedded policy s
  by_cases hmoved : Moves policy s name
  · exact hpass.gone name hmoved
  · obtain ⟨⟨derived, hderived, hpositive⟩, hlisted⟩ := hmoves
    rw [hpass.count_of_not_moved hmoved] at hlisted
    -- The pass has moved nothing at all, although there still is a derived format.
    have hnone : ¬∃ derived ∈ policy.derived, 0 < s.count derived :=
      fun hpresent => hmoved ⟨hpresent, hlisted⟩
    have hidle : relocateEmbedded policy s = s := by
      rw [relocateEmbedded, if_neg (mt any_isPresent_iff.1 hnone)]
    rw [hidle] at hpositive
    exact absurd ⟨derived, hderived, hpositive⟩ hnone

/-- Nothing is left to be moved after the pass. -/
theorem relocateEmbedded_relocateEmbedded (policy : ContainerPolicy) (s : Stats) :
    relocateEmbedded policy (relocateEmbedded policy s) = relocateEmbedded policy s :=
  (relocates_relocateEmbedded policy _).eq_of_no_entry fun _ =>
    get?_eq_none_of_moves_relocateEmbedded

/-- Two policies with the same names in each list, in whatever order and however often. -/
structure SameNames (policy policy' : ContainerPolicy) : Prop where
  derived (name : String) : name ∈ policy.derived ↔ name ∈ policy'.derived
  embedded (name : String) : name ∈ policy.embedded ↔ name ∈ policy'.embedded
  thresholded (name : String) : name ∈ policy.thresholded ↔ name ∈ policy'.thresholded
  imageThreshold : policy.imageThreshold = policy'.imageThreshold

theorem SameNames.relocateEmbedded_eq (hsame : SameNames policy policy') (s : Stats) :
    relocateEmbedded policy s = relocateEmbedded policy' s := by
  have hmoves : ∀ name, Moves policy s name ↔ Moves policy' s name := by
    intro name
    simp only [Moves, hsame.derived, hsame.embedded, hsame.thresholded, hsame.imageThreshold]
  exact ((relocates_relocateEmbedded policy s).congr hmoves).unique
    (relocates_relocateEmbedded policy' s)

/-! ### Counts that have to be kept -/

/-- The pass that checks its sums answers what the one without checks leads to, if that can be
kept. -/
theorem relocateEmbedded?_eq_some_iff (hfits : s.Fits) :
    relocateEmbedded? policy s = some after ↔ after = relocateEmbedded policy s ∧ after.Fits := by
  rw [relocateEmbedded?, relocateEmbedded]
  by_cases hderived : policy.derived.any s.isPresent = true
  · rw [if_pos hderived, if_pos hderived, Option.bind_eq_bind, Option.bind_eq_some_iff]
    have hlisted {s after : Stats} (hfits : s.Fits) :
        policy.embedded.foldlM (fun s name => (s.relocate name).fit?) s = some after ↔
          after = policy.embedded.foldl relocate s ∧ after.Fits :=
      foldlM_fit?_eq_some_iff (·.counts.Fits)
        (fun s name => (relocates_relocate s name).counts_fits)
        (fun s name => (relocates_relocate s name).fits_of_fits) hfits.counts hfits
    have hexceeding {s after : Stats} (hfits : s.Fits) :
        policy.thresholded.foldlM (fun s name =>
            (if policy.imageThreshold < s.count name then s.relocate name else s).fit?) s =
              some after ↔
          after = policy.thresholded.foldl (fun s name =>
            if policy.imageThreshold < s.count name then s.relocate name else s) s ∧ after.Fits :=
      foldlM_fit?_eq_some_iff (·.counts.Fits)
        (fun s name => (relocates_ite policy.imageThreshold s name).counts_fits)
        (fun s name => (relocates_ite policy.imageThreshold s name).fits_of_fits)
        hfits.counts hfits
    constructor
    · rintro ⟨between, hfirst, hsecond⟩
      obtain ⟨rfl, hbetween⟩ := (hlisted hfits).1 hfirst
      exact (hexceeding hbetween).1 hsecond
    · rintro ⟨rfl, hafter⟩
      have hcounts := (relocates_foldl policy.embedded s).counts_fits hfits.counts
      have hbetween := (relocates_foldl_of_exceeds policy.imageThreshold policy.thresholded
        _).fits_of_fits hcounts hafter
      exact ⟨_, (hlisted hfits).2 ⟨rfl, hbetween⟩, (hexceeding hbetween).2 ⟨rfl, hafter⟩⟩
  · rw [if_neg hderived, if_neg hderived, Option.some_inj]
    exact hfits.eq_iff

/-- The pass has an answer if and only if each of the sums that it forms can be kept. -/
theorem exists_relocateEmbedded?_iff (policy : ContainerPolicy) (hfits : s.Fits) :
    (∃ after, relocateEmbedded? policy s = some after) ↔
      ∀ name, Moves policy s name → s.detections name < Counts.limit := by
  simp only [relocateEmbedded?_eq_some_iff hfits, exists_eq_left]
  exact (relocates_relocateEmbedded policy s).fits_iff hfits

/-- Policies that list the same names move the same entries. -/
theorem SameNames.relocateEmbedded?_eq (hsame : SameNames policy policy') (hfits : s.Fits) :
    relocateEmbedded? policy s = relocateEmbedded? policy' s := by
  apply Option.ext
  intro after
  rw [relocateEmbedded?_eq_some_iff hfits, relocateEmbedded?_eq_some_iff hfits,
    hsame.relocateEmbedded_eq s]

/-- The pass loses no detection. Without a file of a derived format it does nothing, and otherwise
it moves the entries of the names that are told by the policy and the counts in front of it, and
leaves all other names alone. The lists count as sets of names, and the second time the pass does
nothing. It fails only if the detections of a name to be moved are too many to be kept in one
number. -/
theorem relocateEmbedded_moves (policy : ContainerPolicy) (hfits : s.Fits) :
    ((∃ after, relocateEmbedded? policy s = some after) ↔
        ∀ name, Moves policy s name → s.detections name < Counts.limit) ∧
    ((∀ name ∈ policy.derived, s.count name = 0) → relocateEmbedded? policy s = some s) ∧
    (∀ policy', SameNames policy policy' →
      relocateEmbedded? policy' s = relocateEmbedded? policy s) ∧
    ∀ after, relocateEmbedded? policy s = some after →
      after = relocateEmbedded policy s ∧
      (∀ name, after.detections name = s.detections name) ∧
      after.filesProcessed = s.filesProcessed ∧
      Relocates (Moves policy s) s after ∧
      relocateEmbedded? policy after = some after := by
  have hpass := relocates_relocateEmbedded policy s
  refine ⟨exists_relocateEmbedded?_iff policy hfits, ?none, ?lists, ?pass⟩
  case none =>
    intro hnone
    rw [relocateEmbedded?_eq_some_iff hfits, relocateEmbedded_of_no_derived hnone]
    exact ⟨rfl, hfits⟩
  case lists =>
    intro policy' hsame
    exact (hsame.relocateEmbedded?_eq hfits).symm
  case pass =>
    intro after hafter
    obtain ⟨rfl, hkept⟩ := (relocateEmbedded?_eq_some_iff hfits).1 hafter
    refine ⟨rfl, hpass.detections, hpass.filesProcessed, hpass, ?_⟩
    rw [relocateEmbedded?_eq_some_iff hkept, relocateEmbedded_relocateEmbedded]
    exact ⟨rfl, hkept⟩

def overlapping : ContainerPolicy where
  derived := ["DOCX"]
  embedded := ["XML", "DOCX"]
  thresholded := ["PNG", "XML", "JPG"]

def overlappingTwice : ContainerPolicy where
  derived := ["DOCX", "DOCX"]
  embedded := ["DOCX", "XML", "DOCX"]
  thresholded := ["JPG", "PNG", "XML", "PNG"]

def documents : Stats where
  counts := .ofList [("DOCX", 1), ("JPG", 2), ("PNG", 3), ("XML", 4), ("ZIP", 0)]
  embedded := .ofList [("XML", 1)]
  filesProcessed := 9

/-- The derived format goes with the rest, and what is left is left the second time. -/
theorem relocateEmbedded_moves_documents :
    documents.Fits ∧ SameNames overlapping overlappingTwice ∧
      Moves overlapping documents "DOCX" ∧
      ∃ after, relocateEmbedded? overlappingTwice documents = some after ∧
        after.counts.get? "DOCX" = none ∧ after.detections "XML" = 5 ∧
        relocateEmbedded? overlapping after = some after := by
  have hfits : documents.Fits := by decide +kernel
  have hsame : SameNames overlapping overlappingTwice := by
    refine ⟨?_, ?_, ?_, rfl⟩ <;> intro name <;>
      simp only [overlapping, overlappingTwice, List.mem_cons, List.not_mem_nil] <;> tauto
  have hmoves : Moves overlapping documents "DOCX" :=
    ⟨⟨"DOCX", by decide, by decide +kernel⟩, .inl (by decide)⟩
  have hpass : relocateEmbedded? overlapping documents =
      some (relocateEmbedded overlapping documents) := by decide +kernel
  obtain ⟨-, -, hnames, hmoved⟩ := relocateEmbedded_moves overlapping hfits
  obtain ⟨-, hdetections, -, hrelocates, hagain⟩ := hmoved _ hpass
  refine ⟨hfits, hsame, hmoves, _, (hnames _ hsame).trans hpass,
    hrelocates.gone "DOCX" hmoves, ?_, hagain⟩
  rw [hdetections]
  decide +kernel

/-- One count above the other, as many as can be kept and one more. -/
example : relocateEmbedded? overlapping
    { counts := .ofList [("DOCX", 1), ("XML", 2 ^ 63)], embedded := .ofList [("XML", 2 ^ 63)] } =
      none := by
  decide +kernel

end FormatScan.Stats
