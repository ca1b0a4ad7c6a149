import FormatScan.Proofs.Correction.Rivals
import FormatScan.Proofs.Stats.Merge

/-!
# What is left of formats that exclude each other

The pairs take their turns one after the other, each on what the turns before it have left. A name
goes at the turn of a pair in which it is outranked and both are still there, and in no other way,
and a name that has gone does not come back. So of two rivals one is gone when their pair has had
its turn, and a name that nobody outranks stays with its count.
-/

namespace FormatScan.Stats

open Signature

variable {signatures : List Signature} {s t : Signature} {st before after : Stats}
  {pair : String × String} {pairs : List (String × String)} {name other : String}

/-- Two formats that exclude each other are both there, and the first one outranks the second. -/
structure Rivals (signatures : List Signature) (st : Stats) (s t : Signature) : Prop where
  left_mem : s ∈ signatures
  right_mem : t ∈ signatures
  excludes : s.Excludes t
  outranks : s.Outranks t
  left_present : st.isPresent s.name = true
  right_present : st.isPresent t.name = true

/-! ### One turn -/

theorem isPresent_iff : st.isPresent name = true ↔ 0 < st.count name := decide_eq_true_iff

theorem isPresent_drop :
    (st.drop name).isPresent other = true ↔ name ≠ other ∧ st.isPresent other = true := by
  rw [isPresent_iff, isPresent_iff, count_drop]
  by_cases heq : name = other <;> simp [heq]

/-- There are no new rivals once a count has been dropped. -/
theorem Rivals.of_drop (hrivals : Rivals signatures (st.drop name) s t) :
    Rivals signatures st s t :=
  { hrivals with
    left_present := (isPresent_drop.1 hrivals.left_present).2
    right_present := (isPresent_drop.1 hrivals.right_present).2 }

/-- A turn does nothing, or it drops the lower one of two rivals that are both there. -/
theorem excludeOne_cases (hnames : (signatures.map (·.name)).Nodup)
    (hpair : pair ∈ exclusivePairs signatures) (st : Stats) :
    excludeOne signatures st pair = st ∨
      ∃ s t, Rivals signatures st s t ∧ pair = s.pairWith t ∧
        excludeOne signatures st pair = st.drop t.name := by
  rcases exists_rivals_or_excludeOne_eq hpair with
    ⟨s, hs, t, ht, hexcludes, houtranks, heq⟩ | hidle
  · have hturn := excludeOne_pairWith hnames hs ht hexcludes.1 houtranks st
    rw [← heq] at hturn
    by_cases hboth : st.isPresent s.name = true ∧ st.isPresent t.name = true
    · rw [if_pos hboth] at hturn
      exact Or.inr ⟨s, t, ⟨hs, ht, hexcludes, houtranks, hboth.1, hboth.2⟩, heq, hturn⟩
    · rw [if_neg hboth] at hturn
      exact Or.inl hturn
  · exact Or.inl (hidle st)

/-! ### Several turns -/

def afterTurns (signatures : List Signature) (pairs : List (String × String)) (st : Stats) :
    Stats :=
  pairs.foldl (excludeOne signatures) st

section Turns

variable (hnames : (signatures.map (·.name)).Nodup)
  (hpairs : ∀ pair ∈ pairs, pair ∈ exclusivePairs signatures)

include hnames hpairs

/-- A name keeps its entry, or it is outranked by one that is there and goes altogether. -/
theorem get?_afterTurns (st : Stats) (name : String) :
    (afterTurns signatures pairs st).counts.get? name = st.counts.get? name ∨
      ((afterTurns signatures pairs st).counts.get? name = none ∧
        ∃ s t, Rivals signatures st s t ∧ t.name = name) := by
  induction pairs generalizing st with
  | nil => exact Or.inl rfl
  | cons pair rest ih =>
      obtain ⟨hpair, hrest⟩ := List.forall_mem_cons.1 hpairs
      rcases excludeOne_cases hnames hpair st with hidle | ⟨s, t, hrivals, -, hdrop⟩
      · rw [afterTurns, List.foldl_cons, hidle]
        exact ih hrest st
      · rw [afterTurns, List.foldl_cons, hdrop]
        have hget : (st.drop t.name).counts.get? name =
            if t.name = name then none else st.counts.get? name :=
          Counts.get?_erase _ _ _
        rcases ih hrest (st.drop t.name) with hkept | ⟨hgone, s', t', hrivals', hname⟩
        · rw [hget] at hkept
          by_cases heq : t.name = name
          · rw [if_pos heq] at hkept
            exact Or.inr ⟨hkept, s, t, hrivals, heq⟩
          · rw [if_neg heq] at hkept
            exact Or.inl hkept
        · exact Or.inr ⟨hgone, s', t', hrivals'.of_drop, hname⟩

theorem count_of_isPresent_afterTurns
    (hpresent : (afterTurns signatures pairs st).isPresent name = true) :
    (afterTurns signatures pairs st).count name = st.count name := by
  rw [isPresent_iff, count, Counts.count] at hpresent
  rw [count, Counts.count, count, Counts.count]
  rcases get?_afterTurns hnames hpairs st name with hkept | ⟨hgone, -⟩
  · rw [hkept]
  · rw [hgone] at hpresent
    exact absurd hpresent (Nat.lt_irrefl 0)

theorem isPresent_of_isPresent_afterTurns
    (hpresent : (afterTurns signatures pairs st).isPresent name = true) :
    st.isPresent name = true := by
  rw [isPresent_iff, ← count_of_isPresent_afterTurns hnames hpairs hpresent]
  exact isPresent_iff.1 hpresent

/-- Two rivals are not both there any more when their turn has come. -/
theorem not_both_afterTurns (hs : s ∈ signatures) (ht : t ∈ signatures) (hexcludes : s.Excludes t)
    (houtranks : s.Outranks t) (hmem : s.pairWith t ∈ pairs) :
    ¬((afterTurns signatures pairs st).isPresent s.name = true ∧
      (afterTurns signatures pairs st).isPresent t.name = true) := by
  rintro ⟨hleft, hright⟩
  induction pairs generalizing st with
  | nil => cases hmem
  | cons pair rest ih =>
      obtain ⟨-, hrest⟩ := List.forall_mem_cons.1 hpairs
      -- At the turn of the pair one goes if both are there, and later turns bring nobody back.
      rcases List.mem_cons.1 hmem with heq | hmem
      · rw [afterTurns, List.foldl_cons, ← afterTurns, ← heq,
          excludeOne_pairWith hnames hs ht hexcludes.1 houtranks] at hleft hright
        by_cases hboth : st.isPresent s.name = true ∧ st.isPresent t.name = true
        · rw [if_pos hboth] at hright
          have hmid := isPresent_of_isPresent_afterTurns hnames hrest hright
          exact (isPresent_drop.1 hmid).1 rfl
        · rw [if_neg hboth] at hleft hright
          exact hboth ⟨isPresent_of_isPresent_afterTurns hnames hrest hleft,
            isPresent_of_isPresent_afterTurns hnames hrest hright⟩
      · exact ih hrest hmem hleft hright

/-- Whoever goes does so at the turn of a pair of two that are still there. -/
theorem exists_turn_of_not_isPresent (hbefore : st.isPresent name = true)
    (hafter : (afterTurns signatures pairs st).isPresent name = false) :
    ∃ earlier later s t, pairs = earlier ++ s.pairWith t :: later ∧
      Rivals signatures (afterTurns signatures earlier st) s t ∧ t.name = name := by
  induction pairs generalizing st with
  | nil =>
      rw [afterTurns, List.foldl_nil, hbefore] at hafter
      cases hafter
  | cons pair rest ih =>
      obtain ⟨hpair, hrest⟩ := List.forall_mem_cons.1 hpairs
      rw [afterTurns, List.foldl_cons, ← afterTurns] at hafter
      by_cases hmid : (excludeOne signatures st pair).isPresent name = true
      · obtain ⟨earlier, later, s, t, hsplit, hrivals, hname⟩ := ih hrest hmid hafter
        refine ⟨pair :: earlier, later, s, t, ?_, ?_, hname⟩
        · rw [hsplit, List.cons_append]
        · exact hrivals
      · rcases excludeOne_cases hnames hpair st with hidle | ⟨s, t, hrivals, heq, hdrop⟩
        · rw [hidle] at hmid
          exact absurd hbefore hmid
        · refine ⟨[], rest, s, t, ?_, hrivals, ?_⟩
          · rw [heq, List.nil_append]
          · by_contra hne
            rw [hdrop] at hmid
            exact hmid (isPresent_drop.2 ⟨hne, hbefore⟩)

end Turns

/-! ### All turns -/

theorem excludePairs_eq (signatures : List Signature) (st : Stats) :
    excludePairs signatures st = { st with counts := (excludePairs signatures st).counts } := by
  have hrest : ({ excludePairs signatures st with counts := ∅ } : Stats) =
      { st with counts := ∅ } := by
    refine foldl_eq_of_mem (fun st => ({ st with counts := ∅ } : Stats)) ?_ st
    intro pair _ st
    rcases excludeOne_eq_or_drop signatures st pair with hidle | ⟨name, -, hdrop⟩
    · rw [hidle]
    · rw [hdrop, drop]
  exact congrArg (fun rest : Stats => { rest with counts := (excludePairs signatures st).counts })
    hrest

section

variable (hnames : (signatures.map (·.name)).Nodup)

include hnames

/-- An entry stays as it is, or it is gone because of a rival that goes first. -/
theorem get?_excludePairs (st : Stats) (name : String) :
    (excludePairs signatures st).counts.get? name = st.counts.get? name ∨
      ((excludePairs signatures st).counts.get? name = none ∧
        ∃ s t, Rivals signatures st s t ∧ t.name = name) :=
  get?_afterTurns hnames (fun _ => id) st name

theorem isPresent_of_isPresent_excludePairs
    (hpresent : (excludePairs signatures st).isPresent name = true) : st.isPresent name = true :=
  isPresent_of_isPresent_afterTurns hnames (fun _ => id) hpresent

/-- Every pair of rivals has had its turn in the end. -/
theorem not_both_excludePairs (hrivals : Rivals signatures before s t) :
    ¬((excludePairs signatures before).isPresent s.name = true ∧
      (excludePairs signatures before).isPresent t.name = true) :=
  not_both_afterTurns hnames (fun _ => id) hrivals.left_mem hrivals.right_mem hrivals.excludes
    hrivals.outranks
    (pairWith_mem_exclusivePairs hrivals.left_mem hrivals.right_mem hrivals.excludes)

theorem count_excludePairs
    (hpresent : (excludePairs signatures before).isPresent name = true) :
    (excludePairs signatures before).count name = before.count name :=
  count_of_isPresent_afterTurns hnames (fun _ => id) hpresent

/-- Nothing happens to a name without a rival that goes first. -/
theorem get?_excludePairs_of_not_outranked
    (hfree : ¬∃ s t, Rivals signatures before s t ∧ t.name = name) :
    (excludePairs signatures before).counts.get? name = before.counts.get? name := by
  rcases get?_excludePairs hnames before name with hkept | ⟨-, houtranked⟩
  · exact hkept
  · exact absurd houtranked hfree

theorem count_excludePairs_of_not_outranked
    (hfree : ¬∃ s t, Rivals signatures before s t ∧ t.name = name) :
    (excludePairs signatures before).count name = before.count name :=
  congrArg (·.getD 0) (get?_excludePairs_of_not_outranked hnames hfree)

theorem excludePairs_of_no_rivals (hnone : ∀ s t, ¬Rivals signatures st s t) :
    excludePairs signatures st = st := by
  have hcounts : (excludePairs signatures st).counts = st.counts := by
    apply Counts.ext_get?
    intro name
    apply get?_excludePairs_of_not_outranked hnames
    rintro ⟨s, t, hrivals, -⟩
    exact hnone s t hrivals
  rw [excludePairs_eq, hcounts]

/-- When all pairs have had their turns, there are no rivals left for another round. -/
theorem excludePairs_excludePairs (st : Stats) :
    excludePairs signatures (excludePairs signatures st) = excludePairs signatures st := by
  apply excludePairs_of_no_rivals hnames
  intro s t hrivals
  have hbefore : Rivals signatures st s t :=
    { hrivals with
      left_present := isPresent_of_isPresent_excludePairs hnames hrivals.left_present
      right_present := isPresent_of_isPresent_excludePairs hnames hrivals.right_present }
  exact not_both_excludePairs hnames hbefore ⟨hrivals.left_present, hrivals.right_present⟩

end

end FormatScan.Stats
