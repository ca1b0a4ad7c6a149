import FormatScan.Proofs.Correction.Exclusion

/-!
# The law of pairs

The law asks that of every two rivals the one that outranks the other is left with its count and the
other one goes. It cannot be met in a chain, where the one in the middle would have to stay and to
go. Wherever it can be met, it is met.
-/

namespace FormatScan.Stats

open Signature

variable {signatures : List Signature} {before after : Stats}

/-- Of any two rivals the one that outranks the other keeps its count, and the other one is
gone. -/
def Resolves (signatures : List Signature) (before after : Stats) : Prop :=
  ∀ s t, Rivals signatures before s t →
    after.count s.name = before.count s.name ∧ after.isPresent t.name = false

def HasChain (signatures : List Signature) (before : Stats) : Prop :=
  ∃ r s t, Rivals signatures before r s ∧ Rivals signatures before s t

/-- In the middle of a chain stands a name that would have to stay and to go. -/
theorem not_hasChain_of_resolves (hresolves : Resolves signatures before after) :
    ¬HasChain signatures before := by
  rintro ⟨r, s, t, hupper, hlower⟩
  have hgone : after.isPresent s.name = false := (hresolves r s hupper).2
  have hkept : after.count s.name = before.count s.name := (hresolves s t hlower).1
  have hpresent : after.isPresent s.name = true := by
    rw [isPresent_iff, hkept]
    exact isPresent_iff.1 hlower.left_present
  rw [hgone] at hpresent
  cases hpresent

section

variable (hnames : (signatures.map (·.name)).Nodup)

include hnames

/-- A count goes if and only if a rival that goes first is there when the turn of the two has come.
-/
theorem isPresent_excludePairs_eq_false_iff {name : String}
    (hbefore : before.isPresent name = true) :
    (excludePairs signatures before).isPresent name = false ↔
      ∃ earlier later s t, exclusivePairs signatures = earlier ++ s.pairWith t :: later ∧
        Rivals signatures (afterTurns signatures earlier before) s t ∧ t.name = name := by
  constructor
  · exact exists_turn_of_not_isPresent hnames (fun _ => id) hbefore
  · rintro ⟨earlier, later, s, t, hsplit, hrivals, hname⟩
    have hlater : ∀ p ∈ later, p ∈ exclusivePairs signatures := by
      intro p hp
      rw [hsplit]
      exact List.mem_append_right _ (List.mem_cons_of_mem _ hp)
    have hturn : excludePairs signatures before =
        afterTurns signatures later ((afterTurns signatures earlier before).drop t.name) := by
      rw [excludePairs, hsplit, List.foldl_append, List.foldl_cons, ← afterTurns, ← afterTurns,
        excludeOne_pairWith hnames hrivals.left_mem hrivals.right_mem hrivals.excludes.1
          hrivals.outranks, if_pos ⟨hrivals.left_present, hrivals.right_present⟩]
    rw [← Bool.not_eq_true, hturn, ← hname]
    intro hpresent
    exact (isPresent_drop.1 (isPresent_of_isPresent_afterTurns hnames hlater hpresent)).1 rfl

/-- A pair is settled as the law asks if nobody outranks the one that outranks the other. -/
theorem settled_of_not_outranked {s t : Signature} (hrivals : Rivals signatures before s t)
    (hfree : ¬∃ r, Rivals signatures before r s) :
    (excludePairs signatures before).count s.name = before.count s.name ∧
      (excludePairs signatures before).isPresent t.name = false := by
  have hfree' : ¬∃ r s', Rivals signatures before r s' ∧ s'.name = s.name := by
    rintro ⟨r, s', hupper, hname⟩
    have hsame : s' = s :=
      List.inj_on_of_nodup_map hnames hupper.right_mem hrivals.left_mem hname
    exact hfree ⟨r, hsame ▸ hupper⟩
  have hcount := count_excludePairs_of_not_outranked hnames hfree'
  have hpresent : (excludePairs signatures before).isPresent s.name = true := by
    rw [isPresent_iff, hcount]
    exact isPresent_iff.1 hrivals.left_present
  refine ⟨hcount, ?_⟩
  rw [← Bool.not_eq_true]
  exact fun hother => not_both_excludePairs hnames hrivals ⟨hpresent, hother⟩

/-- Without a chain the turns do not stand in each other's way. -/
theorem resolves_of_not_hasChain (hchain : ¬HasChain signatures before) :
    Resolves signatures before (excludePairs signatures before) := by
  intro s t hrivals
  refine settled_of_not_outranked hnames hrivals ?_
  rintro ⟨r, hupper⟩
  exact hchain ⟨r, s, t, hupper, hrivals⟩

end

/-- Of two rivals one is left at most, and it keeps its count; it is the one that outranks the
other, unless that one is outranked itself. A name goes exactly at the turn of a pair that finds
both there and in which it is outranked. All pairs are settled as the law asks if that is possible
at all, which is to say if there is no chain. -/
theorem excludePairs_settles (hnames : (signatures.map (·.name)).Nodup) (before : Stats) :
    (∀ s t, Rivals signatures before s t →
      ¬((excludePairs signatures before).isPresent s.name = true ∧
        (excludePairs signatures before).isPresent t.name = true) ∧
      (∀ name ∈ [s.name, t.name], (excludePairs signatures before).isPresent name = true →
        (excludePairs signatures before).count name = before.count name) ∧
      ((¬∃ r, Rivals signatures before r s) →
        (excludePairs signatures before).count s.name = before.count s.name ∧
          (excludePairs signatures before).isPresent t.name = false)) ∧
    (∀ name, before.isPresent name = true →
      ((excludePairs signatures before).isPresent name = false ↔
        ∃ earlier later s t, exclusivePairs signatures = earlier ++ s.pairWith t :: later ∧
          Rivals signatures (afterTurns signatures earlier before) s t ∧ t.name = name)) ∧
    (Resolves signatures before (excludePairs signatures before) ↔
      ¬HasChain signatures before) ∧
    ((∃ after, Resolves signatures before after) ↔ ¬HasChain signatures before) := by
  refine ⟨?_, ?_, ?_, ?_⟩
  · intro s t hrivals
    exact ⟨not_both_excludePairs hnames hrivals, fun _ _ => count_excludePairs hnames,
      settled_of_not_outranked hnames hrivals⟩
  · intro name hbefore
    exact isPresent_excludePairs_eq_false_iff hnames hbefore
  · exact ⟨not_hasChain_of_resolves, resolves_of_not_hasChain hnames⟩
  · constructor
    · rintro ⟨after, hresolves⟩
      exact not_hasChain_of_resolves hresolves
    · exact fun hchain => ⟨_, resolves_of_not_hasChain hnames hchain⟩

def versions : List Signature :=
  [{ (Signature.binary "ARC1" "41").exclude "ARC2" with priority := 1 },
    { (Signature.binary "ARC2" "42").exclude "ARC3" with priority := 2 },
    { Signature.binary "ARC3" "43" with priority := 3 }]

def oneOfEach : Stats := { counts := .ofList [("ARC1", 1), ("ARC2", 1), ("ARC3", 1)] }

theorem rivals_versions_first : Rivals versions oneOfEach versions[1] versions[0] :=
  ⟨by decide, by decide, by decide, by decide, by decide +kernel, by decide +kernel⟩

theorem rivals_versions_second : Rivals versions oneOfEach versions[2] versions[1] :=
  ⟨by decide, by decide, by decide, by decide, by decide +kernel, by decide +kernel⟩

/-- The newest version outranks its only rival and is left; the one that it outranks goes. -/
theorem excludePairs_settles_newest :
    (versions.map (·.name)).Nodup ∧
      (excludePairs versions oneOfEach).count "ARC3" = oneOfEach.count "ARC3" ∧
        (excludePairs versions oneOfEach).isPresent "ARC2" = false := by
  have hnames : (versions.map (·.name)).Nodup := by decide
  refine ⟨hnames, ((excludePairs_settles hnames oneOfEach).1 _ _ rivals_versions_second).2.2 ?_⟩
  rintro ⟨r, hrivals⟩
  have hnone : ∀ r ∈ versions, ¬r.Outranks versions[2] := by decide
  exact hnone r hrivals.left_mem hrivals.outranks

/-- In the chain one is left in all, and so neither of the two older versions, which are rivals. -/
theorem excludePairs_chain_not_resolves :
    (versions.map (·.name)).Nodup ∧ Rivals versions oneOfEach versions[1] versions[0] ∧
      excludePairs versions oneOfEach = { counts := .ofList [("ARC3", 1)] } ∧
        ¬Resolves versions oneOfEach (excludePairs versions oneOfEach) := by
  have hdeclared : (versions.flatMap fun s =>
      (s.exclusiveWith.filter (· ≠ s.name)).map fun other =>
        if s.name < other then (s.name, other) else (other, s.name)) =
      [("ARC1", "ARC2"), ("ARC2", "ARC3")] := by decide +kernel
  have hpairs : exclusivePairs versions = [("ARC1", "ARC2"), ("ARC2", "ARC3")] := by
    rw [exclusivePairs, hdeclared, List.mergeSort_of_pairwise (by decide +kernel)]
    decide +kernel
  refine ⟨by decide, rivals_versions_first, ?_, ?_⟩
  · rw [excludePairs, hpairs]
    decide +kernel
  · intro hresolves
    exact not_hasChain_of_resolves hresolves
      ⟨_, _, _, rivals_versions_second, rivals_versions_first⟩

end FormatScan.Stats
