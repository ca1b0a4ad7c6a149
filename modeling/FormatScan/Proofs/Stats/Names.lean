import FormatScan.Proofs.Correction.Rivals
import FormatScan.Proofs.Stats.Record

/-!
# The names that statistics have entries of

Nothing that is done to statistics makes an entry out of nothing: an entry is there for a name that
has been recorded, in these statistics or in others that were merged into them. The correction
lessens entries, moves them or drops them.
-/

namespace FormatScan

namespace Counts

variable {P : String → Prop} {a b c : Counts} {name other : String} {n : Nat}

theorem mem_names_add : name ∈ (c.add other n).names ↔ other = name ∨ name ∈ c.names := by
  rw [mem_names_iff, mem_names_iff, get?_add]
  by_cases heq : other = name <;> simp [heq]

theorem mem_names_merge : name ∈ (a.merge b).names ↔ name ∈ a.names ∨ name ∈ b.names := by
  rw [mem_names_iff, mem_names_iff, mem_names_iff, get?_merge]
  cases a.get? name <;> cases b.get? name <;> simp

end Counts

namespace Stats

variable {P Q : String → Prop} {a b s : Stats} {name : String} {signatures : List Signature}
  {policy : ContainerPolicy} {pair : String × String}

structure NamesIn (P : String → Prop) (s : Stats) : Prop where
  counts : ∀ name ∈ s.counts.names, P name
  embedded : ∀ name ∈ s.embedded.names, P name

namespace NamesIn

theorem imp (hnames : s.NamesIn P) (himp : ∀ name, P name → Q name) : s.NamesIn Q :=
  ⟨fun name hname => himp name (hnames.counts name hname),
    fun name hname => himp name (hnames.embedded name hname)⟩

theorem empty : NamesIn P Stats.empty :=
  ⟨List.forall_mem_nil _, List.forall_mem_nil _⟩

theorem beginFile (hnames : s.NamesIn P) : s.beginFile.NamesIn P :=
  ⟨hnames.counts, hnames.embedded⟩

theorem fileProcessed (hnames : s.NamesIn P) : s.fileProcessed.NamesIn P :=
  ⟨hnames.counts, hnames.embedded⟩

theorem recorded (hnames : s.NamesIn P) (hname : P name) : (s.recorded name).NamesIn P := by
  by_cases hmem : name ∈ s.detected
  · rwa [recorded_of_mem hmem]
  · rw [recorded_of_notMem hmem]
    refine ⟨?_, hnames.embedded⟩
    intro other hother
    rcases Counts.mem_names_add.1 hother with rfl | hother
    · exact hname
    · exact hnames.counts other hother

theorem merge (ha : a.NamesIn P) (hb : b.NamesIn P) : (a.merge b).NamesIn P where
  counts name hname := (Counts.mem_names_merge.1 hname).elim (ha.counts name) (hb.counts name)
  embedded name hname :=
    (Counts.mem_names_merge.1 hname).elim (ha.embedded name) (hb.embedded name)

/-- What every step of a pass preserves is preserved by the pass. -/
theorem foldl {α : Type} {step : Stats → α → Stats} {items : List α}
    (hstep : ∀ item ∈ items, ∀ s, s.NamesIn P → (step s item).NamesIn P) (hnames : s.NamesIn P) :
    (items.foldl step s).NamesIn P := by
  induction items generalizing s with
  | nil => exact hnames
  | cons item rest ih =>
      obtain ⟨hitem, hrest⟩ := List.forall_mem_cons.1 hstep
      exact ih hrest (hitem s hnames)

theorem mergeAll {parts : List Stats} (hparts : ∀ part ∈ parts, part.NamesIn P) :
    (Stats.mergeAll parts).NamesIn P :=
  empty.foldl fun part hpart _ hs => hs.merge (hparts part hpart)

/-! ### The passes of the correction -/

theorem subtracted (hnames : s.NamesIn P) {counts : Counts}
    (hsame : counts.names = s.counts.names) : { s with counts }.NamesIn P :=
  ⟨fun name hname => hnames.counts name (hsame ▸ hname), hnames.embedded⟩

theorem drop (hnames : s.NamesIn P) (name : String) : (s.drop name).NamesIn P :=
  ⟨fun other hother => hnames.counts other ((Counts.mem_names_erase _ _ _).1 hother).2,
    hnames.embedded⟩

theorem excludeOne (hnames : s.NamesIn P) (pair : String × String) :
    (excludeOne signatures s pair).NamesIn P := by
  rcases excludeOne_eq_or_drop signatures s pair with hidle | ⟨name, -, hdrop⟩
  · rwa [hidle]
  · rw [hdrop]
    exact hnames.drop name

theorem relocate (hnames : s.NamesIn P) (name : String) : (s.relocate name).NamesIn P := by
  unfold Stats.relocate
  cases hentry : s.counts.get? name with
  | none => exact hnames
  | some n =>
      refine ⟨(hnames.drop name).counts, ?_⟩
      intro other hother
      rcases Counts.mem_names_add.1 hother with rfl | hother
      · apply hnames.counts name
        rw [Counts.mem_names_iff, hentry]
        exact Option.some_ne_none n
      · exact hnames.embedded other hother

end NamesIn

end Stats

end FormatScan
