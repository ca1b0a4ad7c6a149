import FormatScan.Proofs.Correction.Deduction
import FormatScan.Proofs.Stats.Record

/-!
# What the correction can do to a name

The correction takes detections away and moves them to the embedded ones, and it makes none. So the
detections of a name, counted and embedded together, are at most what they were. What the updates of
which the passes are made keep, the passes keep, and so does the whole correction.
-/

namespace FormatScan.Stats

variable {signatures : List Signature} {policy : ContainerPolicy} {moved : String → Prop}
  {before after last s : Stats} {name : String}

/-- What may become of statistics: detections go, or are moved to the embedded ones if their names
are `moved`. -/
structure Lowers (moved : String → Prop) (before after : Stats) : Prop where
  names (name : String) : name ∈ after.counts.names → name ∈ before.counts.names
  count_le (name : String) : after.count name ≤ before.count name
  embedded_le (name : String) : before.embeddedCount name ≤ after.embeddedCount name
  embedded_eq (name : String) (hkept : ¬moved name) :
    after.embedded.get? name = before.embedded.get? name
  detections_le (name : String) : after.detections name ≤ before.detections name
  filesProcessed : after.filesProcessed = before.filesProcessed
  detected : after.detected = before.detected

namespace Lowers

theorem refl (moved : String → Prop) (s : Stats) : Lowers moved s s where
  names _ := id
  count_le _ := Nat.le_refl _
  embedded_le _ := Nat.le_refl _
  embedded_eq _ _ := rfl
  detections_le _ := Nat.le_refl _
  filesProcessed := rfl
  detected := rfl

theorem trans (hfirst : Lowers moved before after) (hsecond : Lowers moved after last) :
    Lowers moved before last where
  names name := hfirst.names name ∘ hsecond.names name
  count_le name := Nat.le_trans (hsecond.count_le name) (hfirst.count_le name)
  embedded_le name := Nat.le_trans (hfirst.embedded_le name) (hsecond.embedded_le name)
  embedded_eq name hkept :=
    (hsecond.embedded_eq name hkept).trans (hfirst.embedded_eq name hkept)
  detections_le name := Nat.le_trans (hsecond.detections_le name) (hfirst.detections_le name)
  filesProcessed := hsecond.filesProcessed.trans hfirst.filesProcessed
  detected := hsecond.detected.trans hfirst.detected

theorem foldl {α : Type} {step : Stats → α → Stats} {items : List α}
    (hstep : ∀ item ∈ items, ∀ s, Lowers moved s (step s item)) (s : Stats) :
    Lowers moved s (items.foldl step s) := by
  induction items generalizing s with
  | nil => exact refl moved s
  | cons item rest ih =>
      have hfirst := hstep item List.mem_cons_self s
      exact hfirst.trans (ih (fun other hother => hstep other (List.mem_cons_of_mem _ hother)) _)

/-- An update of the counts that gives no name an entry or a greater one. -/
theorem of_counts {counts : Counts}
    (hnames : ∀ name, name ∈ counts.names → name ∈ s.counts.names)
    (hcount : ∀ name, counts.count name ≤ s.counts.count name) :
    Lowers moved s { s with counts } where
  names := hnames
  count_le := hcount
  embedded_le _ := Nat.le_refl _
  embedded_eq _ _ := rfl
  detections_le name := Nat.add_le_add_right (hcount name) _
  filesProcessed := rfl
  detected := rfl

end Lowers

/-! ### The three kinds of updates -/

theorem lowers_subtract (moved : String → Prop) (s : Stats) (other : String) (n : Nat) :
    Lowers moved s { s with counts := s.counts.subtract other n } := by
  refine .of_counts (fun name => ?_) fun name => ?_
  · rw [Counts.names_subtract]
    exact id
  · rw [Counts.count_subtract]
    exact Nat.sub_le _ _

theorem lowers_erase (moved : String → Prop) (s : Stats) (other : String) :
    Lowers moved s { s with counts := s.counts.erase other } := by
  refine .of_counts (fun name => ?_) fun name => ?_
  · rw [Counts.mem_names_erase]
    exact And.right
  · rw [Counts.count_erase]
    split
    · exact Nat.zero_le _
    · exact Nat.le_refl _

/-- Moving entries to the embedded ones keeps the detections of each name. -/
theorem Relocates.lowers (hrelocates : Relocates moved before after) :
    Lowers moved before after where
  names name := by
    rw [Counts.mem_names_iff, Counts.mem_names_iff]
    by_cases hmoved : moved name
    · rw [hrelocates.gone name hmoved]
      exact fun hentry => absurd rfl hentry
    · rw [hrelocates.counts_kept name hmoved]
      exact id
  count_le := hrelocates.count_le
  embedded_le := hrelocates.embedded_le
  embedded_eq := hrelocates.embedded_kept
  detections_le name := Nat.le_of_eq (hrelocates.detections name)
  filesProcessed := hrelocates.filesProcessed
  detected := hrelocates.detected

theorem Lowers.mono {moved' : String → Prop} (hlowers : Lowers moved before after)
    (hmoved : ∀ name, moved name → moved' name) : Lowers moved' before after :=
  { hlowers with
    embedded_eq := fun name hkept => hlowers.embedded_eq name (mt (hmoved name) hkept) }

/-! ### The passes -/

theorem lowers_deduct (moved : String → Prop) (signatures : List Signature) (s : Stats) :
    Lowers moved s (deduct signatures s) := by
  apply Lowers.of_counts
  · intro name hmem
    rw [← names_deduct signatures s]
    exact hmem
  · intro name
    exact (count_deduct signatures s name).trans_le (Nat.sub_le _ _)

theorem lowers_deductDerived (moved : String → Prop) (policy : ContainerPolicy) (s : Stats) :
    Lowers moved s (deductDerived policy s) :=
  lowers_subtract moved s policy.container (derivedCount policy s)

def deducted (signatures : List Signature) (policy : ContainerPolicy) (s : Stats) : Stats :=
  deductDerived policy (deduct signatures s)

theorem lowers_deducted (moved : String → Prop) (signatures : List Signature)
    (policy : ContainerPolicy) (s : Stats) : Lowers moved s (deducted signatures policy s) :=
  (lowers_deduct _ signatures s).trans (lowers_deductDerived _ policy _)

def Movable (policy : ContainerPolicy) (name : String) : Prop :=
  name ∈ policy.embedded ∨ name ∈ policy.thresholded

/-- Of the four passes this one alone makes embedded counts greater. -/
theorem lowers_relocateEmbedded (policy : ContainerPolicy) (s : Stats) :
    Lowers (Movable policy) s (relocateEmbedded policy s) :=
  (relocates_relocateEmbedded policy s).lowers.mono fun _ hmoves => hmoves.2.imp_right And.left

theorem lowers_excludePairs (moved : String → Prop) (signatures : List Signature) (s : Stats) :
    Lowers moved s (excludePairs signatures s) := by
  refine .foldl (fun pair _ st => ?_) s
  rcases excludeOne_eq_or_drop signatures st pair with hidle | ⟨loser, -, hdrop⟩
  · rw [hidle]
    exact .refl moved st
  · rw [hdrop]
    exact lowers_erase moved st loser

/-- The correction lowers statistics, because each of its passes does. -/
theorem lowers_correct (signatures : List Signature) (policy : ContainerPolicy) (s : Stats) :
    Lowers (Movable policy) s (correct signatures policy s) :=
  ((lowers_deducted _ signatures policy s).trans (lowers_relocateEmbedded policy _)).trans
    (lowers_excludePairs _ signatures _)

/-- No format gains a detection by the correction. -/
theorem detections_correct_le (signatures : List Signature) (policy : ContainerPolicy) (s : Stats)
    (name : String) : (correct signatures policy s).detections name ≤ s.detections name :=
  (lowers_correct signatures policy s).detections_le name

@[simp]
theorem filesProcessed_correct (signatures : List Signature) (policy : ContainerPolicy)
    (s : Stats) : (correct signatures policy s).filesProcessed = s.filesProcessed :=
  (lowers_correct signatures policy s).filesProcessed

/-! ### Without a file of a derived format -/

/-- Nothing is moved if there is no derived format, and the deductions cannot bring one in. -/
theorem embedded_correct_of_no_derived (hnone : ∀ name ∈ policy.derived, s.count name = 0)
    (signatures : List Signature) : (correct signatures policy s).embedded = s.embedded := by
  have hdeducted := lowers_deducted (fun _ => False) signatures policy s
  have hunmoved : relocateEmbedded policy (deducted signatures policy s) =
      deducted signatures policy s := by
    apply relocateEmbedded_of_no_derived
    intro name hname
    have hle := hdeducted.count_le name
    rwa [hnone name hname, Nat.le_zero] at hle
  have hcorrect : correct signatures policy s =
      excludePairs signatures (deducted signatures policy s) :=
    congrArg (excludePairs signatures) hunmoved
  rw [hcorrect]
  exact Counts.ext_get? fun name =>
    (hdeducted.trans (lowers_excludePairs _ signatures _)).embedded_eq name id

/-! ### Counts that have to be kept -/

theorem embedded_deducted (signatures : List Signature) (policy : ContainerPolicy) (s : Stats) :
    (deducted signatures policy s).embedded = s.embedded := rfl

/-- Statistics that can be kept can still be kept where less is left of them. -/
theorem fits_deducted (signatures : List Signature) (policy : ContainerPolicy) (hfits : s.Fits) :
    (deducted signatures policy s).Fits := by
  have hlowers := lowers_deducted (fun _ => False) signatures policy s
  refine hfits.of_le hlowers.count_le (fun name => ?_) (Nat.le_of_eq hlowers.filesProcessed)
  exact Nat.le_of_eq (congrArg (·.count name) (embedded_deducted signatures policy s))

/-- The sums that have to be kept are that of the derived formats and those of the names that are
moved. The correction with these checks comes to what it comes to without them. -/
theorem correct?_eq_some_iff (signatures : List Signature) (policy : ContainerPolicy)
    (hfits : s.Fits) :
    correct? signatures policy s = some after ↔
      derivedCount policy (deduct signatures s) < Counts.limit ∧
        (∀ name, Moves policy (deducted signatures policy s) name →
          (deducted signatures policy s).detections name < Counts.limit) ∧
        after = correct signatures policy s := by
  have hdeducted := fits_deducted signatures policy hfits
  rw [correct?, deductDerived?]
  by_cases hsum : derivedCount policy (deduct signatures s) < Counts.limit
  · rw [if_pos hsum, and_iff_right hsum, ← exists_relocateEmbedded?_iff policy hdeducted]
    simp only [Option.bind_eq_bind, Option.bind_some, Option.pure_def, Option.bind_eq_some_iff,
      Option.some_inj]
    constructor
    · rintro ⟨moved, hmoved, rfl⟩
      obtain ⟨rfl, -⟩ := (relocateEmbedded?_eq_some_iff hdeducted).1 hmoved
      exact ⟨⟨_, hmoved⟩, rfl⟩
    · rintro ⟨⟨moved, hmoved⟩, rfl⟩
      obtain ⟨rfl, -⟩ := (relocateEmbedded?_eq_some_iff hdeducted).1 hmoved
      exact ⟨_, hmoved, rfl⟩
  · rw [if_neg hsum]
    constructor
    · intro hnone
      cases hnone
    · rintro ⟨hsum', -⟩
      exact absurd hsum' hsum

/-- The correction takes away and moves, and adds nothing: no name comes in, no count grows, and no
detection is made. What is moved is told by the policy, and only if there is a derived format. It
fails only if there are too many files of derived formats to be kept in one number, or too many
detections of a name that is moved. -/
theorem correct_lowers (signatures : List Signature) (policy : ContainerPolicy) (hfits : s.Fits) :
    ((∃ after, correct? signatures policy s = some after) ↔
        derivedCount policy (deduct signatures s) < Counts.limit ∧
          ∀ name, Moves policy (deducted signatures policy s) name →
            (deducted signatures policy s).detections name < Counts.limit) ∧
      ∀ after, correct? signatures policy s = some after →
        after = correct signatures policy s ∧ Lowers (Movable policy) s after ∧
          ((∀ name ∈ policy.derived, s.count name = 0) → after.embedded = s.embedded) := by
  constructor
  · simp only [correct?_eq_some_iff signatures policy hfits, exists_and_left, exists_eq, and_true]
  · intro after hafter
    obtain ⟨-, -, rfl⟩ := (correct?_eq_some_iff signatures policy hfits).1 hafter
    exact ⟨rfl, lowers_correct signatures policy s,
      fun hnone => embedded_correct_of_no_derived hnone signatures⟩

def tangled : List Signature :=
  [{ name := "ZIP", deductFrom := some "JAR", exclusiveWith := ["ZIP", "RAR"] },
    { name := "JAR", deductFrom := some "ZIP" }, { name := "ZIP", exclusiveWith := ["PNG"] }]

def pictures : Stats where
  counts := .ofList [("DOCX", 0), ("JAR", 1), ("PNG", 5), ("ZIP", 3)]
  embedded := .ofList [("GIF", 2)]
  filesProcessed := 9

/-- There are more than two pictures, but they are nobody's as there is no document. -/
theorem correct_lowers_pictures :
    pictures.Fits ∧ (∀ name ∈ ({} : ContainerPolicy).derived, pictures.count name = 0) ∧
      ∃ after, correct? tangled {} pictures = some after ∧
        after.count "ZIP" + after.embeddedCount "ZIP" ≤ 3 ∧ after.embedded = pictures.embedded := by
  have hfits : pictures.Fits := by decide +kernel
  have hnone : ∀ name ∈ ({} : ContainerPolicy).derived, pictures.count name = 0 := by
    decide +kernel
  have hsum : derivedCount {} (deduct tangled pictures) < Counts.limit := by decide +kernel
  have hmoves : ∀ name, ¬Moves {} (deducted tangled {} pictures) name := by
    rintro name ⟨⟨derived, hderived, hpositive⟩, -⟩
    have hle := (lowers_deducted (fun _ => False) tangled {} pictures).count_le derived
    rw [hnone derived hderived] at hle
    exact absurd hpositive (Nat.not_lt.2 hle)
  obtain ⟨hexists, hlowers⟩ := correct_lowers tangled {} hfits
  obtain ⟨after, hafter⟩ := hexists.2 ⟨hsum, fun name hname => absurd hname (hmoves name)⟩
  obtain ⟨-, hlowers, hembedded⟩ := hlowers after hafter
  exact ⟨hfits, hnone, after, hafter, hlowers.detections_le "ZIP", hembedded hnone⟩

end FormatScan.Stats
