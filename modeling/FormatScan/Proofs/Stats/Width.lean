import FormatScan.Proofs.Stats.Record

/-!
# Statistics that can be kept

Updates that check what they have led to answer like those that do not, as long as the statistics in
the end can be kept: a sum that is too great does not become less on the way.
-/

namespace FormatScan

/-- A number without an entry is zero and can be kept. -/
theorem Counts.fits_iff {c : Counts} : c.Fits ↔ ∀ name, c.count name < limit := by
  constructor
  · intro hfits name
    rw [count]
    cases hentry : c.get? name with
    | none => exact (by decide : 0 < limit)
    | some n => exact hfits _ (get?_eq_some_iff.1 hentry)
  · intro hlt e he
    have hcount : c.count e.1 = e.2 := by rw [count, get?_eq_some_iff.2 he, Option.getD_some]
    rw [← hcount]
    exact hlt e.1

namespace Stats

variable {α : Type} {step : Stats → α → Stats} {s t after : Stats} {items : List α}

theorem fits_iff : s.Fits ↔ (∀ name, s.count name < Counts.limit) ∧
    (∀ name, s.embeddedCount name < Counts.limit) ∧ s.filesProcessed < Counts.limit := by
  constructor
  · intro hfits
    exact ⟨Counts.fits_iff.1 hfits.counts, Counts.fits_iff.1 hfits.embedded, hfits.filesProcessed⟩
  · rintro ⟨hcounts, hembedded, hfiles⟩
    exact ⟨Counts.fits_iff.2 hcounts, Counts.fits_iff.2 hembedded, hfiles⟩

/-- Lesser numbers can be kept where greater ones can. -/
theorem Fits.of_le (hfits : t.Fits) (hcount : ∀ name, s.count name ≤ t.count name)
    (hembedded : ∀ name, s.embeddedCount name ≤ t.embeddedCount name)
    (hfiles : s.filesProcessed ≤ t.filesProcessed) : s.Fits := by
  rw [fits_iff] at hfits ⊢
  exact ⟨fun name => Nat.lt_of_le_of_lt (hcount name) (hfits.1 name),
    fun name => Nat.lt_of_le_of_lt (hembedded name) (hfits.2.1 name),
    Nat.lt_of_le_of_lt hfiles hfits.2.2⟩

/-- An update that changes nothing has an answer. -/
theorem Fits.eq_iff (hfits : s.Fits) : s = after ↔ after = s ∧ after.Fits := by
  constructor
  · rintro rfl
    exact ⟨rfl, hfits⟩
  · rintro ⟨rfl, -⟩
    rfl

/-- A name that is counted makes a number greater, and nothing else does. -/
theorem Shows.fits_iff {names : List String} (hshows : Shows names s after) (hfits : s.Fits) :
    after.Fits ↔ ∀ name ∈ names, name ∉ s.detected → s.count name + 1 < Counts.limit := by
  obtain ⟨hcounts, hembedded, hfiles⟩ := Stats.fits_iff.1 hfits
  have hkept : ∀ name, after.embeddedCount name = s.embeddedCount name :=
    fun name => congrArg (·.count name) hshows.embedded
  rw [Stats.fits_iff, hshows.filesProcessed]
  simp only [hkept, hshows.count]
  constructor
  · intro hafter name hname hnew
    simpa [hname, hnew] using hafter.1 name
  · intro hroom
    refine ⟨fun name => ?_, hembedded, hfiles⟩
    by_cases hnew : name ∈ names ∧ name ∉ s.detected
    · rw [if_pos hnew]
      exact hroom name hnew.1 hnew.2
    · rw [if_neg hnew]
      exact hcounts name

section

variable (kept : Stats → Prop) (hstep : ∀ s item, kept s → kept (step s item))
  (hback : ∀ s item, kept s → (step s item).Fits → s.Fits)

include hstep hback

/-- Where the end can be kept so can the beginning, if every step back keeps what is kept. -/
theorem fits_of_fits_foldl (hkept : kept s) (hfits : (items.foldl step s).Fits) : s.Fits := by
  induction items generalizing s with
  | nil => exact hfits
  | cons item rest ih => exact hback s item hkept (ih (hstep s item hkept) hfits)

/-- Steps that make no number less, but for what `kept` takes care of, can be checked one by one or
all at once behind the last. -/
theorem foldlM_fit?_eq_some_iff (hkept : kept s) (hfits : s.Fits) :
    items.foldlM (fun s item => (step s item).fit?) s = some after ↔
      after = items.foldl step s ∧ after.Fits := by
  induction items generalizing s with
  | nil =>
      rw [List.foldlM_nil, List.foldl_nil, Option.pure_def, Option.some_inj]
      exact hfits.eq_iff
  | cons item rest ih =>
      rw [List.foldlM_cons, List.foldl_cons, fit?]
      by_cases hnext : (step s item).Fits
      · rw [if_pos hnext]
        exact ih (hstep s item hkept) hnext
      · rw [if_neg hnext]
        constructor
        · intro hnone
          cases hnone
        · rintro ⟨rfl, hlast⟩
          exact absurd (fits_of_fits_foldl kept hstep hback (hstep s item hkept) hlast) hnext

end

end Stats

end FormatScan
