import FormatScan.Proofs.Correction.Exclusion
import Mathlib.Combinatorics.SimpleGraph.Connectivity.Connected
import Mathlib.Data.Prod.Lex
import Mathlib.Data.Set.Finite.Lemmas
import Mathlib.Data.String.Basic

/-!
# The graph of formats that exclude each other

The formats that are there are the nodes of a graph, with an edge between two that exclude each
other. Whatever the graph is like, no edge is left with both ends when all pairs have had their
turns, and in each component the highest format is left: nobody outranks it, and only who is
outranked by a neighbour can go. What is left has no pair to take turns, so nothing happens to it
the second time.
-/

namespace FormatScan

namespace Signature

variable {s t : Signature}

/-- The greater priority ranks higher, and the lesser name where the priorities are the same. -/
def rank (s : Signature) : Int ×ₗ Stringᵒᵈ := toLex (s.priority.toInt, OrderDual.toDual s.name)

/-- To outrank is to be ahead in a linear order. -/
theorem outranks_iff_rank_lt : s.Outranks t ↔ t.rank < s.rank := by
  rw [Outranks, rank, rank, Prod.Lex.toLex_lt_toLex, Int32.lt_iff_toInt_lt, ← Int32.toInt_inj]
  exact Iff.rfl

theorem Outranks.asymm (houtranks : s.Outranks t) : ¬t.Outranks s := by
  rw [outranks_iff_rank_lt] at houtranks ⊢
  exact lt_asymm houtranks

end Signature

namespace Stats

open Signature

variable {signatures : List Signature} {st before : Stats} {name : String}

abbrev Present (signatures : List Signature) (st : Stats) : Type :=
  {s : Signature // s ∈ signatures ∧ st.isPresent s.name = true}

instance : Finite (Present signatures st) :=
  (signatures.finite_toSet.subset fun _ hs => hs.1).to_subtype

def rivalry (signatures : List Signature) (st : Stats) : SimpleGraph (Present signatures st) where
  Adj s t := s.1.Excludes t.1
  symm := ⟨fun _ _ hexcludes => hexcludes.symm⟩
  loopless := ⟨fun _ hexcludes => hexcludes.1 rfl⟩

theorem rivals_of_adj {s t : Present signatures st} (hadj : (rivalry signatures st).Adj s t)
    (houtranks : s.1.Outranks t.1) : Rivals signatures st s.1 t.1 :=
  ⟨s.2.1, t.2.1, hadj, houtranks, s.2.2, t.2.2⟩

theorem adj_of_rivals {s t : Signature} (hrivals : Rivals signatures st s t) :
    (rivalry signatures st).Adj ⟨s, hrivals.left_mem, hrivals.left_present⟩
      ⟨t, hrivals.right_mem, hrivals.right_present⟩ :=
  hrivals.excludes

/-! ### The highest of a component -/

/-- A format that outranks all others of a component. -/
structure IsTopmost (c : (rivalry signatures st).ConnectedComponent)
    (top : Present signatures st) : Prop where
  mem : top ∈ c.supp
  outranks : ∀ s ∈ c.supp, s ≠ top → top.1.Outranks s.1

section

variable (hnames : (signatures.map (·.name)).Nodup)

include hnames

theorem present_eq_of_name_eq {s t : Present signatures st} (hname : s.1.name = t.1.name) : s = t :=
  Subtype.ext (List.inj_on_of_nodup_map hnames s.2.1 t.2.1 hname)

/-- Ranks are a total order and a component is finite, so one of its formats outranks all the
others. -/
theorem exists_topmost (c : (rivalry signatures st).ConnectedComponent) :
    ∃ top, IsTopmost c top := by
  obtain ⟨top, htop, hmax⟩ :=
    Set.exists_max_image c.supp (fun s => s.1.rank) (Set.toFinite _) c.nonempty_supp
  refine ⟨top, htop, ?_⟩
  intro s hs hne
  have hname : top.1.name ≠ s.1.name := fun heq => hne (present_eq_of_name_eq hnames heq.symm)
  rcases outranks_or_outranks hname with houtranks | houtranks
  · exact houtranks
  · exact absurd (outranks_iff_rank_lt.1 houtranks) (not_lt_of_ge (hmax s hs))

/-- A neighbour that outranks the highest would be in its component. -/
theorem not_outranked_of_topmost {c : (rivalry signatures st).ConnectedComponent}
    {top : Present signatures st} (htop : IsTopmost c top) :
    ¬∃ s t, Rivals signatures st s t ∧ t.name = top.1.name := by
  rintro ⟨s, t, hrivals, hname⟩
  have hsame : (⟨t, hrivals.right_mem, hrivals.right_present⟩ : Present signatures st) = top :=
    present_eq_of_name_eq hnames hname
  subst hsame
  have hadj := (adj_of_rivals hrivals).symm
  have hmem := c.mem_supp_of_adj_mem_supp htop.mem hadj
  have houtranks := htop.outranks _ hmem hadj.ne'
  exact hrivals.outranks.asymm houtranks

/-! ### What is left -/

theorem not_both_of_adj {s t : Present signatures before}
    (hadj : (rivalry signatures before).Adj s t) :
    ¬((excludePairs signatures before).isPresent s.1.name = true ∧
      (excludePairs signatures before).isPresent t.1.name = true) := by
  rcases outranks_or_outranks hadj.1 with houtranks | houtranks
  · exact not_both_excludePairs hnames (rivals_of_adj hadj houtranks)
  · rw [and_comm]
    exact not_both_excludePairs hnames (rivals_of_adj hadj.symm houtranks)

theorem get?_excludePairs_cases (before : Stats) (name : String) :
    (excludePairs signatures before).counts.get? name = before.counts.get? name ∨
      (excludePairs signatures before).counts.get? name = none ∧
        ∃ s t, (rivalry signatures before).Adj s t ∧ s.1.Outranks t.1 ∧ t.1.name = name := by
  rcases get?_excludePairs hnames before name with hkept | ⟨hgone, s, t, hrivals, hname⟩
  · exact Or.inl hkept
  · exact Or.inr ⟨hgone, _, _, adj_of_rivals hrivals, hrivals.outranks, hname⟩

/-- What outranks the rest of its component has nothing to fear. -/
theorem isPresent_excludePairs_of_topmost {c : (rivalry signatures before).ConnectedComponent}
    {top : Present signatures before} (htop : IsTopmost c top) :
    (excludePairs signatures before).isPresent top.1.name = true := by
  have hfree := not_outranked_of_topmost hnames htop
  rw [isPresent_iff, count_excludePairs_of_not_outranked hnames hfree]
  exact isPresent_iff.1 top.2.2

end

/-- Whatever the graph of rivals is like: no edge is left with both ends, the highest format of each
component is left, and a name keeps its entry unless a neighbour that is there outranks it. The
turns touch nothing else, and the second time they change nothing. -/
theorem excludePairs_thins_rivalry (hnames : (signatures.map (·.name)).Nodup) (before : Stats) :
    (∀ s t, (rivalry signatures before).Adj s t →
      ¬((excludePairs signatures before).isPresent s.1.name = true ∧
        (excludePairs signatures before).isPresent t.1.name = true)) ∧
    (∀ c : (rivalry signatures before).ConnectedComponent, ∃ top, IsTopmost c top ∧
      (excludePairs signatures before).isPresent top.1.name = true) ∧
    (∀ name, (excludePairs signatures before).counts.get? name = before.counts.get? name ∨
      (excludePairs signatures before).counts.get? name = none ∧
        ∃ s t, (rivalry signatures before).Adj s t ∧ s.1.Outranks t.1 ∧ t.1.name = name) ∧
    (∀ name, (¬∃ s t, (rivalry signatures before).Adj s t ∧ t.1.name = name) →
      (excludePairs signatures before).counts.get? name = before.counts.get? name) ∧
    excludePairs signatures before =
      { before with counts := (excludePairs signatures before).counts } ∧
    excludePairs signatures (excludePairs signatures before) =
      excludePairs signatures before := by
  refine ⟨?_, ?_, get?_excludePairs_cases hnames before, ?_, excludePairs_eq signatures before,
    excludePairs_excludePairs hnames before⟩
  · intro s t hadj
    exact not_both_of_adj hnames hadj
  · intro c
    obtain ⟨top, htop⟩ := exists_topmost hnames c
    exact ⟨top, htop, isPresent_excludePairs_of_topmost hnames htop⟩
  · intro name hlone
    apply get?_excludePairs_of_not_outranked hnames
    rintro ⟨s, t, hrivals, hname⟩
    exact hlone ⟨_, _, adj_of_rivals hrivals, hname⟩

def ring : List Signature :=
  [{ name := "A", priority := 1, exclusiveWith := ["B", "D", "X"] },
    { name := "B", priority := 2, exclusiveWith := ["C"] }, { name := "C", priority := 2 },
    { name := "D", priority := 1, exclusiveWith := ["C"] },
    { name := "E", priority := 9, exclusiveWith := ["B"] }]

def ringFound : Stats where
  counts := .ofList [("A", 5), ("B", 1), ("C", 4), ("D", 2), ("E", 0), ("X", 3)]

/-- `B` is the highest of the ring by its name, and is left; the entry of zero stays. -/
theorem excludePairs_thins_ring :
    (ring.map (·.name)).Nodup ∧ (excludePairs ring ringFound).isPresent "B" = true ∧
      (excludePairs ring ringFound).counts.get? "E" = some 0 := by
  have hnames : (ring.map (·.name)).Nodup := by decide
  let b : Present ring ringFound := ⟨ring[1], by decide, by decide +kernel⟩
  obtain ⟨-, htops, -, hlone, -⟩ := excludePairs_thins_rivalry hnames ringFound
  refine ⟨hnames, ?_, ?_⟩
  · obtain ⟨top, htop, hpresent⟩ := htops ((rivalry ring ringFound).connectedComponentMk b)
    have hnone : ∀ s ∈ ring, ringFound.isPresent s.name = true → ¬s.Outranks b.1 := by
      decide +kernel
    by_cases heq : b = top
    · rw [← heq] at hpresent
      exact hpresent
    · exact absurd (htop.outranks b rfl heq) (hnone top.1 top.2.1 top.2.2)
  · have hentry : ringFound.counts.get? "E" = some 0 := by decide +kernel
    rw [hlone "E", hentry]
    rintro ⟨s, t, -, hname⟩
    have habsent : ringFound.isPresent "E" = false := by decide +kernel
    rw [← hname, t.2.2] at habsent
    cases habsent

end Stats

end FormatScan
