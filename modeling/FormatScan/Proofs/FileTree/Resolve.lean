import FormatScan.Proofs.Fallible
import FormatScan.Proofs.FileTree.Places
import Mathlib.Data.Option.Defs

/-!
# Where paths lead to

A path that leads somewhere in a tree of which directories have been locked has led to the same
place before. So locking a directory can keep a path from leading on, but not lead it astray.
-/

namespace FormatScan

namespace Node

variable {node node' child' root root' : Node} {below : List (String × Node)} {isLocked : Bool}
  {name : String} {place names : List String}

/-- A node stays what it is, but a directory may come to be locked. -/
inductive Keeps : Node → Node → Prop
  | same (node : Node) : Keeps node node
  | directory {entries entries' : List (String × Node)} {isLocked isLocked' : Bool}
      (hlocked : isLocked → isLocked') :
      Keeps (.directory entries isLocked) (.directory entries' isLocked')

/-- Everything in a tree stays where it is. -/
def Bars (root root' : Node) : Prop :=
  ∀ place, Option.Rel Keeps (root.at? place) (root'.at? place)

theorem Keeps.enter (hkeeps : node.Keeps node') (henter : node'.enter = .ok ()) :
    node.enter = .ok () := by
  cases hkeeps with
  | same => exact henter
  | @directory _ _ isLocked isLocked' hlocked =>
      cases isLocked with
      | false => rfl
      | true =>
          rw [hlocked rfl] at henter
          exact henter

theorem Bars.exists_of_at? (hbars : root.Bars root') (hat : root'.at? place = some node') :
    ∃ node, root.at? place = some node ∧ node.Keeps node' := by
  have hrel := hbars place
  rw [hat] at hrel
  generalize root.at? place = found at hrel
  cases hrel with
  | some hkeeps => exact ⟨_, rfl, hkeeps⟩

theorem Bars.rel_child? (hbars : root.Bars root') (hat : root.at? place = some node)
    (hat' : root'.at? place = some node') (name : String) :
    Option.Rel Keeps (node.child? name) (node'.child? name) := by
  have hrel := hbars (place ++ [name])
  rwa [at?_append, at?_append, hat, hat', Option.bind_some, Option.bind_some, at?_singleton,
    at?_singleton] at hrel

theorem Bars.child?_eq_none (hbars : root.Bars root') (hat : root.at? place = some node)
    (hat' : root'.at? place = some node') (hchild : node'.child? name = none) :
    node.child? name = none := by
  have hrel := hbars.rel_child? hat hat' name
  rw [hchild] at hrel
  generalize node.child? name = found at hrel
  cases hrel
  rfl

theorem Bars.exists_of_child? (hbars : root.Bars root') (hat : root.at? place = some node)
    (hat' : root'.at? place = some node') (hchild : node'.child? name = some child') :
    ∃ child, node.child? name = some child ∧ child.Keeps child' := by
  have hrel := hbars.rel_child? hat hat' name
  rw [hchild] at hrel
  generalize node.child? name = found at hrel
  cases hrel with
  | some hkeeps => exact ⟨_, rfl, hkeeps⟩

theorem bars_put (hat : root.at? names = some (.directory below isLocked)) :
    root.Bars (root.put names (.directory below true)) := by
  intro place
  by_cases hprefix : place <+: names
  · obtain ⟨rest, rfl⟩ := hprefix
    rw [at?_append] at hat
    obtain ⟨dir, hdir, hbelow⟩ := Option.bind_eq_some_iff.1 hat
    rw [at?_put_of_at? hdir, hdir]
    constructor
    cases rest with
    | nil =>
        cases hbelow
        exact .directory fun _ => rfl
    | cons name rest =>
        obtain ⟨_, _, _, rfl, hchild, -⟩ := exists_of_at?_cons hbelow
        rw [put_cons hchild]
        exact .directory id
  · rw [at?_put_elsewhere hat hprefix]
    cases root.at? place with
    | none => exact .none
    | some node => exact .some (.same node)

end Node

namespace FileTree

variable {root root' node child : Node} {last : LastName} {links : Nat} {piece target : String}
  {at' pieces rest place : List String} {tree : FileTree} {path : Path}

/-! ### One piece of a path -/

structure LooksUp (last : LastName) (piece : String) (rest : List String) : Prop where
  nonempty : ¬piece = ""
  notHere : ¬piece = "."
  notUp : ¬piece = ".."
  notBarred : ¬(last = .mayBeMissing ∧ !rest.isEmpty ∧ rest.all String.isEmpty)
  short : ¬nameLimit < piece.utf8ByteSize

section

variable (hat : root.at? at' = some node)

include hat

theorem follow_slash (hrest : ¬rest.isEmpty) :
    follow root last links at' ("" :: rest) = follow root last links at' rest := by
  rw [follow, hat]
  simp only [if_true, if_neg hrest]

theorem follow_finalSlash {entries : List (String × Node)} {isLocked : Bool}
    (hdir : node = .directory entries isLocked) (hrest : rest.isEmpty) :
    follow root last links at' ("" :: rest) = .ok at' := by
  rw [follow, hat, hdir]
  simp only [if_true, if_pos hrest]

variable (henter : node.enter = .ok ())

include henter

theorem follow_here :
    follow root last links at' ("." :: rest) = follow root last links at' rest := by
  rw [follow, hat]
  simp only [String.reduceEq, if_false, henter, if_true]

/-- The parent of the root is the root. -/
theorem follow_up :
    follow root last links at' (".." :: rest) = follow root last links at'.dropLast rest := by
  rw [follow, hat]
  simp only [String.reduceEq, if_false, henter, if_true]

variable (hlooks : LooksUp last piece rest)

include hlooks

theorem follow_missing (hchild : node.child? piece = none)
    (hlast : rest.isEmpty ∧ last = .mayBeMissing) :
    follow root last links at' (piece :: rest) = .ok (at' ++ [piece]) := by
  rw [follow, hat]
  simp only [if_neg hlooks.nonempty, henter, if_neg hlooks.notHere, if_neg hlooks.notUp,
    if_neg hlooks.notBarred, if_neg hlooks.short, hchild, if_pos hlast]

theorem follow_keptLink (hchild : node.child? piece = some (.link target))
    (hlast : rest.isEmpty ∧ last = .keepLink) :
    follow root last links at' (piece :: rest) = .ok (at' ++ [piece]) := by
  rw [follow, hat]
  simp only [if_neg hlooks.nonempty, henter, if_neg hlooks.notHere, if_neg hlooks.notUp,
    if_neg hlooks.notBarred, if_neg hlooks.short, hchild, if_pos hlast]

/-- A link that is gone along costs one of the links that are left. -/
theorem follow_link (hchild : node.child? piece = some (.link target))
    (hlast : ¬(rest.isEmpty ∧ last = .keepLink)) :
    follow root last (links + 1) at' (piece :: rest) =
      follow root last links (if target.toList.head? = some '/' then [] else at')
        (Path.pieces target.toList ++ rest) := by
  rw [follow, hat]
  simp only [if_neg hlooks.nonempty, henter, if_neg hlooks.notHere, if_neg hlooks.notUp,
    if_neg hlooks.notBarred, if_neg hlooks.short, hchild, if_neg hlast]

theorem follow_entry (hchild : node.child? piece = some child)
    (hlink : ∀ target, child = .link target → False) :
    follow root last links at' (piece :: rest) =
      follow root last links (at' ++ [piece]) rest := by
  rw [follow, hat]
  simp only [if_neg hlooks.nonempty, henter, if_neg hlooks.notHere, if_neg hlooks.notUp,
    if_neg hlooks.notBarred, if_neg hlooks.short, hchild]

end

/-! ### Two trees, or two kinds of last names -/

/-- What can be followed in spite of bars leads to the same place without them. -/
theorem follow_of_bars (hbars : root.Bars root')
    (hfollow : follow root' last links at' pieces = .ok place) :
    follow root last links at' pieces = .ok place := by
  -- Each step that is not refused in the later tree is the same in the earlier one.
  fun_induction follow root' last links at' pieces with
  | case1 => rwa [follow]
  | case3 links at' rest hrest _ _ hat =>
      obtain ⟨node, hnode, hkeeps⟩ := hbars.exists_of_at? hat
      cases hkeeps with
      | same | directory => rwa [follow_finalSlash hnode rfl hrest]
  | case5 links at' rest node' hat hrest ih =>
      obtain ⟨node, hnode, hkeeps⟩ := hbars.exists_of_at? hat
      rw [follow_slash hnode hrest]
      exact ih hfollow
  | case7 links at' rest node' hat henter _ ih =>
      obtain ⟨node, hnode, hkeeps⟩ := hbars.exists_of_at? hat
      rw [follow_here hnode (hkeeps.enter henter)]
      exact ih hfollow
  | case8 links at' rest node' hat henter _ _ ih =>
      obtain ⟨node, hnode, hkeeps⟩ := hbars.exists_of_at? hat
      rw [follow_up hnode (hkeeps.enter henter)]
      exact ih hfollow
  | case11 links at' piece rest node' hat hempty henter hhere hup hslash hlong hchild hlast =>
      obtain ⟨node, hnode, hkeeps⟩ := hbars.exists_of_at? hat
      have hchild := hbars.child?_eq_none hnode hat hchild
      rwa [follow_missing hnode (hkeeps.enter henter) ⟨hempty, hhere, hup, hslash, hlong⟩ hchild
        hlast]
  | case13 links at' piece rest node' hat hempty henter hhere hup hslash hlong target hchild
      hlast =>
      obtain ⟨node, hnode, hkeeps⟩ := hbars.exists_of_at? hat
      obtain ⟨_, hchild, ⟨⟩⟩ := hbars.exists_of_child? hnode hat hchild
      rwa [follow_keptLink hnode (hkeeps.enter henter) ⟨hempty, hhere, hup, hslash, hlong⟩ hchild
        hlast]
  | case15 at' piece rest node' hat hempty henter hhere hup hslash hlong target hchild hlast links
      start ih =>
      obtain ⟨node, hnode, hkeeps⟩ := hbars.exists_of_at? hat
      obtain ⟨_, hchild, ⟨⟩⟩ := hbars.exists_of_child? hnode hat hchild
      rw [follow_link hnode (hkeeps.enter henter) ⟨hempty, hhere, hup, hslash, hlong⟩ hchild hlast]
      exact ih hfollow
  | case16 links at' piece rest node' hat hempty henter hhere hup hslash hlong child' hlink hchild
      ih =>
      obtain ⟨node, hnode, hkeeps⟩ := hbars.exists_of_at? hat
      obtain ⟨child, hchild, hkept⟩ := hbars.exists_of_child? hnode hat hchild
      have hlink (target : String) (heq : child = .link target) : False := by
        subst heq
        cases hkept
        exact hlink target rfl
      rw [follow_entry hnode (hkeeps.enter henter) ⟨hempty, hhere, hup, hslash, hlong⟩ hchild hlink]
      exact ih hfollow
  | _ => cases hfollow

/-- A path that does not go along a last link leads to the same place, or else to the link. -/
theorem exists_follow_keepLink (hfollow : follow root .follow links at' pieces = .ok place) :
    ∃ here, follow root .keepLink links at' pieces = .ok here ∧
      (here = place ∨ ∃ target, root.at? here = some (.link target)) := by
  have hlooks {piece : String} {rest : List String} (hempty : ¬piece = "") (hhere : ¬piece = ".")
      (hup : ¬piece = "..") (hlong : ¬nameLimit < piece.utf8ByteSize) :
      LooksUp .keepLink piece rest :=
    ⟨hempty, hhere, hup, fun h => LastName.noConfusion h.1, hlong⟩
  fun_induction follow root .follow links at' pieces with
  | case1 =>
      rw [follow]
      exact ⟨_, hfollow, .inl rfl⟩
  | case3 links at' rest hrest _ _ hat =>
      rw [follow_finalSlash hat rfl hrest]
      exact ⟨_, hfollow, .inl rfl⟩
  | case5 links at' rest node hat hrest ih =>
      rw [follow_slash hat hrest]
      exact ih hfollow
  | case7 links at' rest node hat henter _ ih =>
      rw [follow_here hat henter]
      exact ih hfollow
  | case8 links at' rest node hat henter _ _ ih =>
      rw [follow_up hat henter]
      exact ih hfollow
  | case15 at' piece rest node hat hempty henter hhere hup _ hlong target hchild _ links start ih =>
      by_cases hrest : rest.isEmpty
      · rw [follow_keptLink hat henter (hlooks hempty hhere hup hlong) hchild ⟨hrest, rfl⟩]
        refine ⟨_, rfl, .inr ⟨target, ?_⟩⟩
        rw [Node.at?_append, hat, Option.bind_some, Node.at?_singleton, hchild]
      · rw [follow_link hat henter (hlooks hempty hhere hup hlong) hchild fun h => hrest h.1]
        exact ih hfollow
  | case16 links at' piece rest node hat hempty henter hhere hup _ hlong child hlink hchild ih =>
      rw [follow_entry hat henter (hlooks hempty hhere hup hlong) hchild hlink]
      exact ih hfollow
  | case11 | case13 => simp_all
  | _ => cases hfollow

/-! ### Whole paths -/

theorem resolve_eq_ok_iff : tree.resolve last path = .ok place ↔
    ¬path.text.toList.contains '\x00' ∧ ¬path.text.toList.isEmpty ∧
      ¬pathLimit ≤ path.text.utf8ByteSize ∧
      follow tree.root last linkLimit
        (if path.text.toList.head? = some '/' then [] else tree.here)
        (Path.pieces path.text.toList) = .ok place := by
  rw [resolve, ite_error_eq_ok, ite_error_eq_ok, ite_error_eq_ok]

/-- Bars may make a path fail, but never lead elsewhere. -/
theorem resolve_of_bars (hbars : tree.root.Bars root')
    (hresolve : ({ tree with root := root' } : FileTree).resolve last path = .ok place) :
    tree.resolve last path = .ok place := by
  obtain ⟨hnul, hempty, hlong, hfollow⟩ := resolve_eq_ok_iff.1 hresolve
  exact resolve_eq_ok_iff.2 ⟨hnul, hempty, hlong, follow_of_bars hbars hfollow⟩

theorem find_eq_ok_iff : tree.find last path = .ok node ↔
    ∃ place, tree.resolve last path = .ok place ∧ tree.root.at? place = some node := by
  rw [find, bind_eq_ok]
  apply exists_congr
  intro place
  apply and_congr_right
  intro _
  cases tree.root.at? place with
  | none => exact iff_of_false nofun nofun
  | some found =>
      exact ⟨fun hok => congrArg some (Except.ok.inj hok),
        fun hsome => congrArg Except.ok (Option.some.inj hsome)⟩

/-- What a path leads to lies at its end or behind a link there. -/
theorem find_keepLink_of_node (hnode : tree.node path = .ok node) :
    tree.find .keepLink path = .ok node ∨
      ∃ target, tree.find .keepLink path = .ok (.link target) := by
  obtain ⟨place, hresolve, hat⟩ := find_eq_ok_iff.1 hnode
  obtain ⟨hnul, hempty, hlong, hfollow⟩ := resolve_eq_ok_iff.1 hresolve
  obtain ⟨here, hkeep, hhere⟩ := exists_follow_keepLink hfollow
  have hkeep := resolve_eq_ok_iff.2 ⟨hnul, hempty, hlong, hkeep⟩
  obtain rfl | ⟨target, htarget⟩ := hhere
  · exact .inl (find_eq_ok_iff.2 ⟨here, hkeep, hat⟩)
  · exact .inr ⟨target, find_eq_ok_iff.2 ⟨here, hkeep, htarget⟩⟩

/-! ### Locking one directory -/

/-- The tree with one node more that nobody may read. -/
def lockAt (tree : FileTree) (place : List String) : FileTree :=
  match tree.root.at? place with
  | some node => { tree with root := tree.root.put place (node.setLocked true) }
  | none => tree

variable {other names : List String} {below : List (String × Node)} {dir : Node} {isLocked : Bool}

theorem root_lockAt (hat : tree.root.at? other = some (.directory below isLocked)) :
    (tree.lockAt other).root = tree.root.put other (.directory below true) := by
  rw [lockAt, hat]
  rfl

theorem resolve_of_lockAt (hat : tree.root.at? other = some (.directory below isLocked))
    (hresolve : (tree.lockAt other).resolve last path = .ok place) :
    tree.resolve last path = .ok place := by
  rw [lockAt, hat] at hresolve
  exact resolve_of_bars (Node.bars_put hat) hresolve

/-- A path that still leads somewhere leads to the same place, whatever is there now. -/
theorem node_lockAt (hat : tree.root.at? other = some (.directory below isLocked))
    (hresolve : tree.resolve .follow path = .ok place)
    (hthere : (tree.lockAt other).isThere path)
    (hnode : (tree.lockAt other).root.at? place = some node) :
    (tree.lockAt other).node path = .ok node := by
  cases hfound : (tree.lockAt other).node path with
  | error e =>
      rw [isThere, hfound] at hthere
      cases hthere
  | ok found =>
      obtain ⟨place', hresolve', hat'⟩ := find_eq_ok_iff.1 hfound
      have hplace := resolve_of_lockAt hat hresolve'
      rw [hresolve] at hplace
      cases hplace
      rw [hnode] at hat'
      rw [Option.some_inj.1 hat']

/-- The directory that a path leads to shows what is locked behind it. -/
theorem node_lockAt_below (hresolve : tree.resolve .follow path = .ok place)
    (hdir : tree.root.at? place = some dir) (hat : dir.at? names = some (.directory below isLocked))
    (hthere : (tree.lockAt (place ++ names)).isThere path) :
    (tree.lockAt (place ++ names)).node path = .ok (dir.put names (.directory below true)) := by
  have hother : tree.root.at? (place ++ names) = some (.directory below isLocked) := by
    rw [Node.at?_append, hdir, Option.bind_some, hat]
  apply node_lockAt hother hresolve hthere
  rw [root_lockAt hother, Node.at?_put_of_at? hdir]

/-- A directory is as it was where something beside it is locked. -/
theorem node_lockAt_elsewhere (hresolve : tree.resolve .follow path = .ok place)
    (hdir : tree.root.at? place = some dir)
    (hat : tree.root.at? other = some (.directory below isLocked)) (hnot : ¬place <+: other)
    (hthere : (tree.lockAt other).isThere path) : (tree.lockAt other).node path = .ok dir := by
  apply node_lockAt hat hresolve hthere
  rw [root_lockAt hat, Node.at?_put_elsewhere hat hnot, hdir]

/-! ### Entries of the directory where paths begin -/

def IsPlain (name : String) : Prop :=
  Path.pieces name.toList = [name] ∧ name ∉ ["", ".", ".."] ∧ name.toList.head? ≠ some '/' ∧
    '\x00' ∉ name.toList ∧ name.utf8ByteSize ≤ nameLimit

instance (name : String) : Decidable (IsPlain name) := inferInstanceAs (Decidable (_ ∧ _))

variable {entries : List (String × Node)} {name : String} (child)

theorem resolve_child (hchild : (Node.directory entries false).child? name = some child)
    (hlink : ∀ target, child ≠ .link target) (hplain : IsPlain name) :
    ({ root := .directory entries false } : FileTree).resolve .follow ⟨name⟩ = .ok [name] := by
  obtain ⟨hpieces, hname, hhead, hnul, hsize⟩ := hplain
  simp only [List.mem_cons, List.not_mem_nil, or_false, not_or] at hname
  obtain ⟨hempty, hhere, hup⟩ := hname
  have hlooks : LooksUp .follow name [] :=
    ⟨hempty, hhere, hup, fun h => LastName.noConfusion h.1, Nat.not_lt.2 hsize⟩
  have hfollow : follow (.directory entries false) .follow linkLimit [] [name] = .ok [name] := by
    rw [follow_entry rfl rfl hlooks hchild hlink, follow, List.nil_append]
  have hpath : ¬pathLimit ≤ name.utf8ByteSize := by
    unfold pathLimit
    unfold nameLimit at hsize
    omega
  rw [resolve_eq_ok_iff, if_neg hhead, hpieces]
  exact ⟨by simpa using hnul, by simpa using hempty, hpath, hfollow⟩

theorem node_child (hchild : (Node.directory entries false).child? name = some child)
    (hlink : ∀ target, child ≠ .link target) (hplain : IsPlain name) :
    ({ root := .directory entries false } : FileTree).node ⟨name⟩ = .ok child := by
  rw [node, find_eq_ok_iff]
  refine ⟨[name], resolve_child child hchild hlink hplain, ?_⟩
  rw [Node.at?_singleton, hchild]

theorem isThere_child (hchild : (Node.directory entries false).child? name = some child)
    (hlink : ∀ target, child ≠ .link target) (hplain : IsPlain name) :
    ({ root := .directory entries false } : FileTree).isThere ⟨name⟩ := by
  rw [isThere, node_child child hchild hlink hplain]
  rfl

end FileTree

end FormatScan
