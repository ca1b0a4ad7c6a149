import FormatScan.FileTree.Basic
import FormatScan.Proofs.Entries
import FormatScan.Proofs.Path.Steps
import Mathlib.Data.Option.Basic

/-!
# Places in a tree

Names lead from a directory to a node below it, and through readable directories the node can be
reached. A directory that is locked cuts off what lies behind it. It stays where it was, as does
whatever lies elsewhere, and no path comes to lead to another place.
-/

namespace FormatScan

namespace Node

variable {node new dir child last : Node} {entries below : List (String × Node)}
  {isLocked isLocked' : Bool} {name other : String} {names place : List String} {content : Content}

/-- A tree in which the entries of each directory have names, no two of them the same. -/
inductive IsProper : Node → Prop
  | file (content : Content) (isLocked : Bool) : IsProper (.file content isLocked)
  | link (target : String) : IsProper (.link target)
  | directory {entries : List (String × Node)} {isLocked : Bool}
      (hnodup : (entries.map Prod.fst).Nodup) (hname : ∀ e ∈ entries, Path.IsName e.1)
      (hbelow : ∀ e ∈ entries, IsProper e.2) : IsProper (.directory entries isLocked)

def listed : Node → List (String × Node)
  | .directory entries false => entries
  | _ => []

/-- Names that lead from one node to another one through readable directories. -/
inductive Reaches : Node → List String → Node → Prop
  | here (node : Node) : Reaches node [] node
  | through {node child last : Node} {name : String} {names : List String}
      (hentry : (name, child) ∈ node.listed) (hbelow : Reaches child names last) :
      Reaches node (name :: names) last

theorem mem_entries_of_mem_listed (hentry : (name, child) ∈ node.listed) :
    (name, child) ∈ node.entries := by
  match node, hentry with
  | .directory _ false, hentry => exact hentry

theorem IsProper.nodup_entries (hproper : node.IsProper) : (node.entries.map Prod.fst).Nodup := by
  cases hproper with
  | directory hnodup _ _ => exact hnodup
  | file | link => exact List.nodup_nil

theorem IsProper.nodup_listed (hproper : node.IsProper) : (node.listed.map Prod.fst).Nodup := by
  match node, hproper with
  | .directory _ false, hproper => exact hproper.nodup_entries
  | .directory _ true, _ | .file .., _ | .link _, _ => exact List.nodup_nil

theorem IsProper.isName (hproper : node.IsProper) (hentry : (name, child) ∈ node.entries) :
    Path.IsName name := by
  cases hproper with
  | directory _ hname _ => exact hname _ hentry
  | file | link => exact absurd hentry List.not_mem_nil

theorem IsProper.of_mem_entries (hproper : node.IsProper)
    (hentry : (name, child) ∈ node.entries) : child.IsProper := by
  cases hproper with
  | directory _ _ hbelow => exact hbelow _ hentry
  | file | link => exact absurd hentry List.not_mem_nil

theorem Reaches.isName (hreaches : node.Reaches names last) (hproper : node.IsProper) :
    ∀ name ∈ names, Path.IsName name := by
  induction hreaches with
  | here => exact List.forall_mem_nil _
  | through hentry _ ih =>
      have hentry := mem_entries_of_mem_listed hentry
      exact List.forall_mem_cons.2 ⟨hproper.isName hentry, ih (hproper.of_mem_entries hentry)⟩

/-! ### Entries -/

theorem child?_eq_some_iff (hproper : node.IsProper) :
    node.child? name = some child ↔ (name, child) ∈ node.entries :=
  find?_map_eq_some_iff_of_nodup hproper.nodup_entries

theorem mem_entries_of_child? (hchild : node.child? name = some child) :
    (name, child) ∈ node.entries := by
  obtain ⟨entry, hfind, rfl⟩ := Option.map_eq_some_iff.1 hchild
  have hname : entry.1 = name := by simpa using List.find?_some hfind
  subst hname
  exact List.mem_of_find?_eq_some hfind

/-- A new entry is found under its name, and the others as before. -/
theorem child?_setEntry (name other : String) (new : Node) (entries : List (String × Node))
    (isLocked : Bool) :
    (Node.directory (setEntry name new entries) isLocked).child? other =
      if name = other then some new else (Node.directory entries isLocked).child? other := by
  simp only [child?, Node.entries]
  fun_induction setEntry name new entries with
  | case1 => by_cases heq : name = other <;> simp [heq]
  | case2 n rest => by_cases heq : name = other <;> simp [heq]
  | case3 third n rest hne ih =>
      by_cases heq : third = other
      · have hother : name ≠ other := by
          rintro rfl
          exact hne heq
        simp [heq, hother]
      · simpa [heq] using ih

theorem map_fst_setEntry (hentry : (name, child) ∈ entries) (new : Node) :
    (setEntry name new entries).map Prod.fst = entries.map Prod.fst := by
  fun_induction setEntry name new entries with
  | case1 => exact absurd hentry List.not_mem_nil
  | case2 => rfl
  | case3 other n rest hne ih =>
      obtain hfirst | hrest := List.mem_cons.1 hentry
      · exact absurd (congrArg Prod.fst hfirst).symm hne
      · rw [List.map_cons, ih hrest, List.map_cons]

theorem eq_or_mem_of_mem_setEntry {entry : String × Node}
    (hentry : entry ∈ setEntry name new entries) : entry = (name, new) ∨ entry ∈ entries := by
  fun_induction setEntry name new entries with
  | case1 => exact .inl (List.mem_singleton.1 hentry)
  | case2 n rest => exact (List.mem_cons.1 hentry).imp_right (List.mem_cons_of_mem _)
  | case3 other n rest hne ih =>
      obtain rfl | hrest := List.mem_cons.1 hentry
      · exact .inr List.mem_cons_self
      · exact (ih hrest).imp_right (List.mem_cons_of_mem _)

/-! ### What names lead to -/

theorem at?_append (node : Node) (place names : List String) :
    node.at? (place ++ names) = (node.at? place).bind (·.at? names) := by
  induction place generalizing node with
  | nil => rfl
  | cons name place ih =>
      rw [List.cons_append, at?, at?, Option.bind_assoc]
      exact Option.bind_congr fun child _ => ih child

theorem at?_singleton (node : Node) (name : String) : node.at? [name] = node.child? name := by
  rw [at?]
  exact Option.bind_fun_some _

/-- What a name leads on from is a directory. -/
theorem exists_of_at?_cons (hat : node.at? (name :: names) = some last) :
    ∃ entries isLocked child, node = .directory entries isLocked ∧
      node.child? name = some child ∧ child.at? names = some last := by
  obtain ⟨child, hchild, hbelow⟩ := Option.bind_eq_some_iff.1 hat
  match node, hchild with
  | .directory entries isLocked, hchild => exact ⟨entries, isLocked, child, rfl, hchild, hbelow⟩

theorem IsProper.of_at? (hproper : node.IsProper) (hat : node.at? names = some last) :
    last.IsProper ∧ ∀ name ∈ names, Path.IsName name := by
  induction names generalizing node with
  | nil =>
      cases hat
      exact ⟨hproper, List.forall_mem_nil _⟩
  | cons name names ih =>
      obtain ⟨_, _, child, -, hchild, hbelow⟩ := exists_of_at?_cons hat
      have hentry := mem_entries_of_child? hchild
      obtain ⟨hlast, hnames⟩ := ih (hproper.of_mem_entries hentry) hbelow
      exact ⟨hlast, List.forall_mem_cons.2 ⟨hproper.isName hentry, hnames⟩⟩

/-! ### A node in the place of another one -/

theorem put_cons (hchild : (Node.directory entries isLocked).child? name = some child)
    (names : List String) (new : Node) :
    (Node.directory entries isLocked).put (name :: names) new =
      .directory (setEntry name (child.put names new) entries) isLocked := by
  rw [put, hchild]
  rfl

theorem IsProper.setLocked (hproper : node.IsProper) (isLocked : Bool) :
    (node.setLocked isLocked).IsProper := by
  cases hproper with
  | file content _ => exact .file content isLocked
  | link target => exact .link target
  | directory hnodup hname hbelow => exact .directory hnodup hname hbelow

/-- What is put into a proper tree leaves it proper, if it is proper itself. -/
theorem IsProper.put (hproper : node.IsProper) (hat : node.at? names = some last)
    (hnew : new.IsProper) : (node.put names new).IsProper := by
  induction names generalizing node with
  | nil => exact hnew
  | cons name names ih =>
      obtain ⟨entries, isLocked, child, rfl, hchild, hbelow⟩ := exists_of_at?_cons hat
      have hentry : (name, child) ∈ entries := mem_entries_of_child? hchild
      have hput := ih (hproper.of_mem_entries hentry) hbelow
      rw [put_cons hchild]
      constructor
      · rw [map_fst_setEntry hentry]
        exact hproper.nodup_entries
      · intro entry hmem
        obtain rfl | hmem := eq_or_mem_of_mem_setEntry hmem
        · exact hproper.isName hentry
        · exact hproper.isName hmem
      · intro entry hmem
        obtain rfl | hmem := eq_or_mem_of_mem_setEntry hmem
        · exact hput
        · exact hproper.of_mem_entries hmem

theorem exists_put_eq_directory
    (hat : (Node.directory entries isLocked).at? names = some (.directory below isLocked')) :
    ∃ entries' isLocked'', (Node.directory entries isLocked).put names (.directory below true) =
      .directory entries' isLocked'' := by
  cases names with
  | nil => exact ⟨below, true, rfl⟩
  | cons name names =>
      obtain ⟨_, _, child, heq, hchild, -⟩ := exists_of_at?_cons hat
      cases heq
      exact ⟨_, _, put_cons hchild _ _⟩

theorem at?_put_of_at? (hat : node.at? place = some dir) (names : List String) (new : Node) :
    (node.put (place ++ names) new).at? place = some (dir.put names new) := by
  induction place generalizing node with
  | nil =>
      cases hat
      rfl
  | cons name place ih =>
      obtain ⟨entries, isLocked, child, rfl, hchild, hbelow⟩ := exists_of_at?_cons hat
      rw [List.cons_append, put_cons hchild, at?, child?_setEntry, if_pos rfl]
      exact ih hbelow

/-! ### A directory that is locked -/

/-- Locking a directory changes nothing for what is not above it. -/
theorem at?_put_elsewhere (hat : node.at? names = some (.directory below isLocked))
    (hnot : ¬place <+: names) :
    (node.put names (.directory below isLocked')).at? place = node.at? place := by
  induction names generalizing node place with
  | nil =>
      cases hat
      cases place with
      | nil => exact absurd List.nil_prefix hnot
      | cons name place => rfl
  | cons name names ih =>
      obtain ⟨entries, _, child, rfl, hchild, hbelow⟩ := exists_of_at?_cons hat
      rw [put_cons hchild]
      cases place with
      | nil => exact absurd List.nil_prefix hnot
      | cons other place =>
          rw [at?, at?, child?_setEntry]
          by_cases heq : name = other
          · subst heq
            have hrest : ¬place <+: names := fun hprefix =>
              hnot (List.cons_prefix_cons.2 ⟨rfl, hprefix⟩)
            rw [if_pos rfl, hchild]
            exact ih hbelow hrest
          · rw [if_neg heq]

/-- A name leads on if the directory is not locked. -/
theorem reaches_cons_iff (hproper : (Node.directory entries isLocked).IsProper) :
    (Node.directory entries isLocked).Reaches (name :: names) last ↔
      isLocked = false ∧ ∃ child, (Node.directory entries isLocked).child? name = some child ∧
        child.Reaches names last := by
  constructor
  · intro hreaches
    cases hreaches with
    | @through _ child _ _ _ hentry hbelow =>
        have hchild := (child?_eq_some_iff hproper).2 (mem_entries_of_mem_listed hentry)
        refine ⟨?_, child, hchild, hbelow⟩
        cases isLocked with
        | false => rfl
        | true => exact absurd hentry List.not_mem_nil
  · rintro ⟨rfl, child, hchild, hbelow⟩
    exact .through (mem_entries_of_child? hchild) hbelow

/-- A locked directory hides the files below it, and no others. -/
theorem reaches_put_iff (hproper : node.IsProper)
    (hat : node.at? names = some (.directory below isLocked)) :
    (node.put names (.directory below true)).Reaches place (.file content isLocked') ↔
      node.Reaches place (.file content isLocked') ∧ ¬names <+: place := by
  -- Along the names to the locked directory; a place with another name is on a branch that stays.
  induction names generalizing node place with
  | nil =>
      have hhidden : ¬(Node.directory below true).Reaches place (.file content isLocked') := by
        rintro (_ | ⟨hentry, _⟩)
        exact List.not_mem_nil hentry
      exact iff_of_false hhidden fun h => h.2 List.nil_prefix
  | cons name names ih =>
      have hput := hproper.put hat ((hproper.of_at? hat).1.setLocked true)
      rw [Node.setLocked] at hput
      obtain ⟨entries, isLocked'', child, rfl, hchild, hbelow⟩ := exists_of_at?_cons hat
      rw [put_cons hchild] at hput ⊢
      cases place with
      | nil =>
          apply iff_of_false
          · rintro ⟨⟩
          · rintro ⟨⟨⟩, -⟩
      | cons other place =>
          have hchild' := hproper.of_mem_entries (mem_entries_of_child? hchild)
          rw [reaches_cons_iff hput, reaches_cons_iff hproper, child?_setEntry,
            List.cons_prefix_cons]
          by_cases heq : name = other
          · subst heq
            simp only [if_true, hchild, Option.some.injEq, exists_eq_left', true_and,
              ih hchild' hbelow, and_assoc]
          · simp only [heq, if_false, false_and, not_false_iff, and_true]

end Node

end FormatScan
