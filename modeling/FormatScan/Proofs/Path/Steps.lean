import FormatScan.Path
import FormatScan.Proofs.Text.ByteOrder

/-!
# Paths step by step

The path of an entry of a directory takes one step more than that of the directory, however that one
is written. Paths are put in order step by step, names by their bytes; so the paths below one
directory are in the order of the names that lead on from it.
-/

namespace FormatScan.Path

open Text.Hex (utf8)

variable {path : Path} {name other : String} {names names' : List String}

/-! ### The steps of an entry -/

theorem pieces_go_append_slash (piece front back : List Char) :
    pieces.go piece (front ++ '/' :: back) = pieces.go piece front ++ pieces back := by
  induction front generalizing piece with
  | nil =>
      simp only [List.nil_append, pieces.go, if_true]
      rfl
  | cons c front ih =>
      rw [List.cons_append, pieces.go, pieces.go]
      by_cases hslash : c = '/'
      · rw [if_pos hslash, if_pos hslash, ih, List.cons_append]
      · rw [if_neg hslash, if_neg hslash, ih]

theorem pieces_go_of_notMem {chars : List Char} (hslash : '/' ∉ chars) (piece : List Char) :
    pieces.go piece chars = [String.ofList (piece.reverse ++ chars)] := by
  induction chars generalizing piece with
  | nil => rw [pieces.go, List.append_nil]
  | cons c rest ih =>
      obtain ⟨hne, hrest⟩ := not_or.1 (mt List.mem_cons.2 hslash)
      rw [pieces.go, if_neg (Ne.symm hne), ih hrest, List.reverse_cons, List.append_assoc]
      rfl

/-- Behind the last slash stands the last piece. -/
theorem pieces_append_slash (front : List Char) {back : List Char} (hslash : '/' ∉ back) :
    pieces (front ++ '/' :: back) = pieces front ++ [String.ofList back] := by
  rw [pieces, pieces_go_append_slash, pieces, pieces, pieces_go_of_notMem hslash]
  rfl

theorem pieces_ne_nil (chars : List Char) : pieces chars ≠ [] := by
  suffices ∀ piece, pieces.go piece chars ≠ [] from this []
  intro piece
  induction chars generalizing piece with
  | nil => exact List.cons_ne_nil _ _
  | cons c rest ih =>
      rw [pieces.go]
      by_cases hslash : c = '/'
      · rw [if_pos hslash]
        exact List.cons_ne_nil _ _
      · rw [if_neg hslash]
        exact ih _

def IsName (name : String) : Prop :=
  name ≠ "" ∧ name ≠ "." ∧ name ≠ ".." ∧ '/' ∉ name.toList

instance (name : String) : Decidable (IsName name) := inferInstanceAs (Decidable (_ ∧ _))

theorem IsName.stepOfPiece? (hname : IsName name) : stepOfPiece? name = some (.into name) := by
  obtain ⟨hempty, hhere, hup, -⟩ := hname
  simp [Path.stepOfPiece?, hempty, hhere, hup]

def stepsBefore (front : List Char) : List Step :=
  (if (front ++ ['/']).head? = some '/' then [.root]
    else if (pieces front).head? = some "." then [.here] else []) ++
    (pieces front).filterMap Path.stepOfPiece?

theorem steps_of_append_slash {text : String} {front back : List Char}
    (htext : text.toList = front ++ '/' :: back) (hslash : '/' ∉ back) :
    (Path.mk text).steps =
      stepsBefore front ++ (Path.stepOfPiece? (String.ofList back)).toList := by
  have hhead : (front ++ '/' :: back).head? = (front ++ ['/']).head? := by
    cases front <;> rfl
  have hfirst : (pieces front ++ [String.ofList back]).head? = (pieces front).head? :=
    List.head?_append_of_ne_nil _ (pieces_ne_nil front)
  simp only [steps, htext, pieces_append_slash front hslash, hhead, hfirst, stepsBefore,
    List.filterMap_append, List.append_assoc]
  cases hback : Path.stepOfPiece? (String.ofList back) <;> simp [hback]

theorem steps_eq_stepsBefore (hne : path.text.toList ≠ []) :
    path.steps = stepsBefore path.text.toList := by
  rw [stepsBefore, List.head?_append_of_ne_nil _ hne]
  rfl

theorem steps_child (path : Path) (hname : IsName name) :
    (path.child name).steps = path.steps ++ [.into name] := by
  have hstep := hname.stepOfPiece?
  obtain ⟨hempty, hhere, -, hslash⟩ := hname
  by_cases hroot : path.text = ""
  · have hpieces : pieces name.toList = [name] := by
      rw [pieces, pieces_go_of_notMem hslash, List.reverse_nil, List.nil_append,
        String.ofList_toList]
    have hhead : name.toList.head? ≠ some '/' := fun hfirst =>
      hslash (List.mem_of_mem_head? hfirst)
    have hnothing : path.steps = [] := by
      rw [steps, hroot]
      rfl
    rw [child, if_pos hroot, hnothing]
    simp [steps, hpieces, hhead, hhere, hstep]
  · have hne : path.text.toList ≠ [] := by simpa using hroot
    by_cases hlast : path.text.toList.getLast? = some '/'
    · obtain ⟨front, hfront⟩ := List.getLast?_eq_some_iff.1 hlast
      have htext : (path.text ++ name).toList = front ++ '/' :: name.toList := by
        rw [String.toList_append, hfront, List.append_assoc]
        rfl
      rw [child, if_neg hroot, if_pos hlast, steps_of_append_slash htext hslash,
        String.ofList_toList, hstep, steps_of_append_slash hfront List.not_mem_nil]
      have hnothing : Path.stepOfPiece? (String.ofList []) = none := rfl
      rw [hnothing, Option.toList_none, List.append_nil, Option.toList_some]
    · have htext : (path.text ++ "/" ++ name).toList = path.text.toList ++ '/' :: name.toList := by
        rw [String.toList_append, String.toList_append, List.append_assoc]
        rfl
      rw [child, if_neg hroot, if_neg hlast, steps_of_append_slash htext hslash,
        String.ofList_toList, hstep, steps_eq_stepsBefore hne]
      rfl

def descend (path : Path) (names : List String) : Path := names.foldl child path

theorem steps_descend (path : Path) (hnames : ∀ name ∈ names, IsName name) :
    (path.descend names).steps = path.steps ++ names.map .into := by
  induction names generalizing path with
  | nil => rw [descend, List.foldl_nil, List.map_nil, List.append_nil]
  | cons name names ih =>
      obtain ⟨hname, hrest⟩ := List.forall_mem_cons.1 hnames
      have hbelow := ih (path.child name) hrest
      rw [steps_child path hname, List.append_assoc] at hbelow
      exact hbelow

def isWithin (path directory : Path) : Bool := directory.steps.isPrefixOf path.steps

/-- One path is within another one if its names begin with those of the other one. -/
theorem isWithin_descend_iff (path : Path) (hnames : ∀ name ∈ names, IsName name)
    (hnames' : ∀ name ∈ names', IsName name) :
    (path.descend names').isWithin (path.descend names) ↔ names <+: names' := by
  have hinjective : Function.Injective Step.into := fun _ _ => Step.into.inj
  rw [isWithin, List.isPrefixOf_iff_prefix, steps_descend path hnames, steps_descend path hnames',
    List.prefix_append_right_inj, List.prefix_map_iff_of_injective hinjective]

/-! ### The order of paths -/

def Step.rank : Step → Nat
  | .root => 0
  | .here => 1
  | .up => 2
  | .into _ => 3

def Step.Precedes : Step → Step → Prop
  | .into name, .into other => utf8 name.toList < utf8 other.toList
  | a, b => a.rank < b.rank

theorem Step.Precedes.asymm {a b : Step} (hprecedes : a.Precedes b) : ¬b.Precedes a := by
  cases a <;> cases b
  case into.into => exact List.lt_asymm hprecedes
  all_goals exact Nat.lt_asymm hprecedes

instance : Std.Asymm Step.Precedes := ⟨fun _ _ => Step.Precedes.asymm⟩

/-- One path stands before another one if it does at the first step where both differ. -/
def Precedes (a b : Path) : Prop := List.Lex Step.Precedes a.steps b.steps

theorem Precedes.asymm {a b : Path} (hprecedes : a.Precedes b) : ¬b.Precedes a :=
  (List.Lex.asymm Step.Precedes).asymm _ _ hprecedes

/-- Paths that part at two names are in the order of the names. -/
theorem Precedes.of_names {a b : Path} {front : List Step} (hlt : name < other)
    (ha : front ++ [.into name] <+: a.steps) (hb : front ++ [.into other] <+: b.steps) :
    a.Precedes b := by
  obtain ⟨behind, ha⟩ := ha
  obtain ⟨behind', hb⟩ := hb
  rw [Precedes, ← ha, ← hb, List.append_assoc, List.append_assoc]
  apply List.Lex.append_left
  apply List.Lex.rel
  exact Text.lt_iff_utf8_lt.1 hlt

/-- Paths in their order are known by which ones they are. -/
theorem eq_of_mem_iff_of_pairwise {paths paths' : List Path} (hpaths : paths.Pairwise Precedes)
    (hpaths' : paths'.Pairwise Precedes) (hmem : ∀ path, path ∈ paths ↔ path ∈ paths') :
    paths = paths' := by
  have hnodup {paths : List Path} (hpaths : paths.Pairwise Precedes) : paths.Nodup := by
    apply hpaths.imp
    rintro a b hprecedes rfl
    exact hprecedes.asymm hprecedes
  have hperm := (List.perm_ext_iff_of_nodup (hnodup hpaths) (hnodup hpaths')).2 hmem
  exact hperm.eq_of_pairwise (fun a b _ _ hab hba => absurd hba hab.asymm) hpaths hpaths'

end FormatScan.Path
