import FormatScan.FileTree.Discovery
import FormatScan.Proofs.FileTree.Resolve

/-!
# The files that are found

A walk tells of a node before it goes on to the entries, and takes these in the order of their
names. What it comes across is then exactly what can be reached from the root, in the order of the
paths, and what it tells of a directory that cannot be read disturbs nothing else.
-/

namespace FormatScan

def Sight.failedAt? (root : Path) : Sight → Option Path
  | .failure path? _ => some (path?.getD root)
  | .entry .. => none

theorem map_filterMap_warning? (root : Path) (sights : List Sight) :
    (sights.filterMap (Sight.warning? root)).map (fun event => (event.severity, event.subject)) =
      (sights.filterMap (Sight.failedAt? root)).map fun path => (.warn, .path path) := by
  rw [List.map_filterMap, List.map_filterMap]
  apply List.filterMap_congr
  intro sight _
  cases sight <;> rfl

namespace Node

variable {node last : Node} {path found : Path} {sights : List Sight} {marked : Node → Bool}
  {choose : Sight → Option Path}

def ownSights (path : Path) (reason : String) : Node → List Sight
  | .file .. => [.entry path true]
  | .link _ => [.entry path false]
  | .directory _ false => [.entry path false]
  | .directory _ true => [.entry path false, .failure (some path) reason]

/-- A walk from a node on goes through its entries in the order of their names. -/
inductive IsWalkedAs : Path → Node → List Sight → Prop
  | step {path : Path} {node : Node} {inOrder : List (String × Node)}
      {below : String × Node → List Sight} (reason : String) (hperm : inOrder.Perm node.listed)
      (hsorted : inOrder.Pairwise fun a b => a.1 ≤ b.1)
      (hbelow : ∀ entry ∈ inOrder, IsWalkedAs (path.child entry.1) entry.2 (below entry)) :
      IsWalkedAs path node (node.ownSights path reason ++ inOrder.flatMap below)

/-- Of what a walk comes across, a choice shows the paths of marked nodes, behind which there is
nothing more. -/
structure Shows (choose : Sight → Option Path) (marked : Node → Bool) : Prop where
  own : ∀ path reason node,
    (node.ownSights path reason).filterMap choose = if marked node then [path] else []
  leaf : ∀ node, marked node → node.listed = []

/-- A choice is made at the node itself first and behind it in the order of the walk. -/
theorem Shows.filterMap_append_flatMap (hshows : Shows choose marked) (path : Path)
    (reason : String) (node : Node) (inOrder : List (String × Node))
    (below : String × Node → List Sight) :
    (node.ownSights path reason ++ inOrder.flatMap below).filterMap choose =
      (if marked node then [path] else []) ++
        inOrder.flatMap fun entry => (below entry).filterMap choose := by
  rw [List.filterMap_append, hshows.own, List.filterMap_flatMap]

/-- A walk shows a path if and only if readable directories lead to a marked node there. -/
theorem IsWalkedAs.mem_filterMap_iff (hwalked : node.IsWalkedAs path sights)
    (hshows : Shows choose marked) :
    found ∈ sights.filterMap choose ↔
      ∃ names last, node.Reaches names last ∧ marked last ∧ found = path.descend names := by
  induction hwalked with
  | @step path node inOrder below reason hperm _ _ ih =>
      rw [hshows.filterMap_append_flatMap, List.mem_append, List.mem_flatMap]
      constructor
      · rintro (hown | ⟨entry, hentry, hfound⟩)
        · rw [List.mem_ite_nil_right, List.mem_singleton] at hown
          exact ⟨[], node, .here node, hown.1, hown.2⟩
        · obtain ⟨names, last, hreaches, hmarked, rfl⟩ := (ih entry hentry).1 hfound
          exact ⟨entry.1 :: names, last, .through (hperm.mem_iff.1 hentry) hreaches, hmarked, rfl⟩
      · rintro ⟨names, last, hreaches, hmarked, rfl⟩
        cases hreaches with
        | here =>
            left
            rw [if_pos hmarked]
            exact List.mem_singleton_self path
        | @through _ child _ name names hentry hbelow =>
            have hentry := hperm.mem_iff.2 hentry
            exact .inr ⟨_, hentry, (ih _ hentry).2 ⟨names, last, hbelow, hmarked, rfl⟩⟩

/-- Whatever is found lies behind the node where the walk begins. -/
theorem IsWalkedAs.steps_of_found (hwalked : node.IsWalkedAs path sights)
    (hshows : Shows choose marked) (hproper : node.IsProper)
    (hfound : found ∈ sights.filterMap choose) : path.steps <+: found.steps := by
  obtain ⟨names, last, hreaches, -, rfl⟩ := (hwalked.mem_filterMap_iff hshows).1 hfound
  rw [Path.steps_descend path (hreaches.isName hproper)]
  exact List.prefix_append _ _

/-- Paths are shown in their order, none of them twice. -/
theorem IsWalkedAs.pairwise_filterMap (hwalked : node.IsWalkedAs path sights)
    (hshows : Shows choose marked) (hproper : node.IsProper) :
    (sights.filterMap choose).Pairwise Path.Precedes := by
  induction hwalked with
  | @step path node inOrder below reason hperm hsorted hbelow ih =>
      rw [hshows.filterMap_append_flatMap]
      by_cases hmarked : marked node
      · rw [hshows.leaf node hmarked] at hperm
        rw [hperm.eq_nil, if_pos hmarked]
        exact List.pairwise_singleton _ path
      · rw [if_neg hmarked, List.nil_append, List.pairwise_flatMap]
        have hmem {entry : String × Node} (hentry : entry ∈ inOrder) : entry ∈ node.entries :=
          mem_entries_of_mem_listed (hperm.mem_iff.1 hentry)
        have hnodup : (inOrder.map Prod.fst).Nodup :=
          (hperm.map Prod.fst).nodup_iff.2 hproper.nodup_listed
        have hascending : inOrder.Pairwise fun a b => a.1 < b.1 :=
          (hsorted.and (List.pairwise_map.1 hnodup)).imp fun ⟨hle, hne⟩ =>
            String.not_le.1 fun hge => hne (String.le_antisymm hle hge)
        constructor
        · intro entry hentry
          exact ih entry hentry (hproper.of_mem_entries (hmem hentry))
        -- What is found behind two entries differs at the step into them.
        · apply hascending.imp_of_mem
          intro a b ha hb hlt x hx y hy
          have hbelow_a := (hbelow a ha).steps_of_found hshows (hproper.of_mem_entries (hmem ha)) hx
          have hbelow_b := (hbelow b hb).steps_of_found hshows (hproper.of_mem_entries (hmem hb)) hy
          rw [Path.steps_child path (hproper.isName (hmem ha))] at hbelow_a
          rw [Path.steps_child path (hproper.isName (hmem hb))] at hbelow_b
          exact Path.Precedes.of_names hlt hbelow_a hbelow_b

/-! ### Files, and directories that are locked -/

def isFile : Node → Bool
  | .file .. => true
  | _ => false

def isBarred : Node → Bool
  | .directory _ true => true
  | _ => false

theorem shows_file? : Shows Sight.file? isFile where
  own path reason node := by
    match node with
    | .file .. | .link _ | .directory _ false | .directory _ true => rfl
  leaf node hmarked := by
    match node, hmarked with
    | .file .., _ => rfl

theorem shows_failedAt? (root : Path) : Shows (Sight.failedAt? root) isBarred where
  own path reason node := by
    match node with
    | .file .. | .link _ | .directory _ false | .directory _ true => rfl
  leaf node hmarked := by
    match node, hmarked with
    | .directory _ true, _ => rfl

/-! ### The walk in the order of names -/

theorem isWalkedAs_ownSights (path : Path) (reason : String) (hlisted : node.listed = []) :
    node.IsWalkedAs path (node.ownSights path reason) := by
  have hnothing : ([] : List (String × Node)).Perm node.listed := by rw [hlisted]
  have hwalked := @IsWalkedAs.step path node [] (fun _ => []) reason hnothing .nil nofun
  rwa [List.flatMap_nil, List.append_nil] at hwalked

theorem sightsOfAll_eq_map (path : Path) (entries : List (String × Node)) :
    sightsOfAll path entries =
      entries.map fun entry => (entry.1, entry.2.sights (path.child entry.1)) := by
  induction entries with
  | nil => rfl
  | cons entry rest ih => rw [sightsOfAll, ih, List.map_cons]

theorem nameLe_trans {α : Type} (a b c : String × α) (hab : nameLe a b) (hbc : nameLe b c) :
    nameLe a c :=
  decide_eq_true (String.le_trans (of_decide_eq_true hab) (of_decide_eq_true hbc))

theorem nameLe_total {α : Type} (a b : String × α) : nameLe a b || nameLe b a := by
  rw [Bool.or_eq_true]
  exact (String.le_total a.1 b.1).imp decide_eq_true decide_eq_true

theorem inNameOrder_map {α β : Type} (entries : List (String × α)) (below : String × α → List β) :
    inNameOrder (entries.map fun entry => (entry.1, below entry)) =
      (entries.mergeSort nameLe).flatMap below := by
  have hsort : (entries.mergeSort nameLe).map (fun entry => (entry.1, below entry)) =
      (entries.map fun entry => (entry.1, below entry)).mergeSort nameLe :=
    List.map_mergeSort fun _ _ _ _ => rfl
  rw [inNameOrder, ← hsort, List.flatMap_map]

theorem sizeOf_lt_of_mem_entries {entry : String × Node} (hentry : entry ∈ node.entries) :
    sizeOf entry.2 < sizeOf node := by
  match node, hentry with
  | .directory entries isLocked, hentry =>
      calc
        sizeOf entry.2 < sizeOf entry := by
          rw [Prod.mk.sizeOf_spec]
          omega
        _ < sizeOf entries := List.sizeOf_lt_of_mem hentry
        _ < sizeOf (Node.directory entries isLocked) := by
          rw [Node.directory.sizeOf_spec]
          omega

/-- The walk that runs goes through entries in the order of their names. -/
theorem isWalkedAs_sights (node : Node) (path : Path) :
    node.IsWalkedAs path (node.sights path) := by
  match node with
  | .file .. => exact isWalkedAs_ownSights path "" rfl
  | .link _ => exact isWalkedAs_ownSights path "" rfl
  | .directory entries true => exact isWalkedAs_ownSights path _ rfl
  | .directory entries false =>
      have hsorted : (entries.mergeSort nameLe).Pairwise fun a b => a.1 ≤ b.1 :=
        (List.pairwise_mergeSort nameLe_trans nameLe_total entries).imp of_decide_eq_true
      have hbelow : ∀ entry ∈ entries.mergeSort nameLe,
          entry.2.IsWalkedAs (path.child entry.1) (entry.2.sights (path.child entry.1)) := by
        intro entry hentry
        have hmem := List.mem_mergeSort.1 hentry
        exact isWalkedAs_sights entry.2 _
      rw [sights, if_neg Bool.false_ne_true, sightsOfAll_eq_map, inNameOrder_map]
      exact .step "" (List.mergeSort_perm entries _) hsorted hbelow
  termination_by sizeOf node
  decreasing_by exact sizeOf_lt_of_mem_entries hmem

end Node

/-! ### What is found below a directory -/

/-- A walk that goes through all that can be listed from a directory on. -/
def Walk.IsOrdered (walk : Walk) : Prop :=
  ∀ {tree : FileTree} {root : Path} {entries : List (String × Node)} {isLocked : Bool},
    tree.node root = .ok (.directory entries isLocked) →
      (Node.directory entries isLocked).IsWalkedAs root (walk tree root)

theorem FileTree.walk_eq_sights {tree : FileTree} {root : Path} {entries : List (String × Node)}
    {isLocked : Bool} (hnode : tree.node root = .ok (.directory entries isLocked)) :
    walk tree root = (Node.directory entries isLocked).sights root := by
  obtain hkeep | ⟨target, hkeep⟩ := find_keepLink_of_node hnode
  · rw [walk, hkeep]
  · rw [walk, hkeep, hnode]

/-- The walk that runs is one of those that the result is about. -/
theorem FileTree.isOrdered_walk : Walk.IsOrdered FileTree.walk := by
  intro tree root entries isLocked hnode
  rw [walk_eq_sights hnode]
  exact Node.isWalkedAs_sights _ root

namespace Walk

variable {walk : Walk} {tree : FileTree} {root path : Path} {names place other : List String}
  {entries below : List (String × Node)} {isLocked isLocked' : Bool}

section

variable (hwalk : walk.IsOrdered) (hnode : tree.node root = .ok (.directory entries isLocked))

include hwalk hnode

theorem mem_files_iff : path ∈ (walk.discover tree root).1 ↔
    ∃ names content isLocked',
      (Node.directory entries isLocked).Reaches names (.file content isLocked') ∧
        path = root.descend names := by
  apply ((hwalk hnode).mem_filterMap_iff Node.shows_file?).trans
  constructor
  · rintro ⟨names, last, hreaches, hmarked, rfl⟩
    match last, hmarked with
    | .file content isLocked', _ => exact ⟨names, content, isLocked', hreaches, rfl⟩
  · rintro ⟨names, content, isLocked', hreaches, rfl⟩
    exact ⟨names, _, hreaches, rfl, rfl⟩

theorem pairwise_files (hproper : (Node.directory entries isLocked).IsProper) :
    (walk.discover tree root).1.Pairwise Path.Precedes :=
  (hwalk hnode).pairwise_filterMap Node.shows_file? hproper

/-- The warnings are about the directories that cannot be listed, each of them once and in order. -/
theorem exists_barred (hproper : (Node.directory entries isLocked).IsProper) :
    ∃ barred : List Path, barred.Pairwise Path.Precedes ∧
      (∀ path, path ∈ barred ↔ ∃ names below,
        (Node.directory entries isLocked).Reaches names (.directory below true) ∧
          path = root.descend names) ∧
      (walk.discover tree root).2.map (fun event => (event.severity, event.subject)) =
        barred.map fun path => (.warn, .path path) := by
  refine ⟨(walk tree root).filterMap (Sight.failedAt? root), ?_, ?_, ?_⟩
  · exact (hwalk hnode).pairwise_filterMap (Node.shows_failedAt? root) hproper
  · intro path
    apply ((hwalk hnode).mem_filterMap_iff (Node.shows_failedAt? root)).trans
    constructor
    · rintro ⟨names, last, hreaches, hmarked, rfl⟩
      match last, hmarked with
      | .directory below true, _ => exact ⟨names, below, hreaches, rfl⟩
    · rintro ⟨names, below, hreaches, rfl⟩
      exact ⟨names, _, hreaches, rfl, rfl⟩
  · exact map_filterMap_warning? root (walk tree root)

/-- What lies elsewhere in the tree has no part in it. -/
theorem files_eq_of_node_eq {later : FileTree}
    (hproper : (Node.directory entries isLocked).IsProper)
    (hlater : later.node root = .ok (.directory entries isLocked)) :
    (walk.discover later root).1 = (walk.discover tree root).1 := by
  apply Path.eq_of_mem_iff_of_pairwise (pairwise_files hwalk hlater hproper)
    (pairwise_files hwalk hnode hproper)
  intro path
  rw [mem_files_iff hwalk hlater, mem_files_iff hwalk hnode]

/-- Once a directory is locked the files behind it are missing, and no other ones. -/
theorem files_of_node_put {later : FileTree} (hproper : (Node.directory entries isLocked).IsProper)
    (hat : (Node.directory entries isLocked).at? names = some (.directory below isLocked'))
    (hlater : later.node root =
      .ok ((Node.directory entries isLocked).put names (.directory below true))) :
    (walk.discover later root).1 =
      (walk.discover tree root).1.filter fun path => !path.isWithin (root.descend names) := by
  obtain ⟨hbelow, hnames⟩ := hproper.of_at? hat
  have hput := hproper.put hat (hbelow.setLocked true)
  rw [Node.setLocked] at hput
  have hreaches (place : List String) (content : Content) (isLocked'' : Bool) :=
    @Node.reaches_put_iff _ below isLocked' isLocked'' names place content hproper hat
  obtain ⟨entries', isLocked'', heq⟩ := Node.exists_put_eq_directory hat
  rw [heq] at hlater hput
  simp only [heq] at hreaches
  apply Path.eq_of_mem_iff_of_pairwise (pairwise_files hwalk hlater hput)
    ((pairwise_files hwalk hnode hproper).filter _)
  intro path
  rw [List.mem_filter, mem_files_iff hwalk hlater, mem_files_iff hwalk hnode, Bool.not_eq_true']
  have hoff {place : List String} (hplace : ∀ name ∈ place, Path.IsName name) :
      (root.descend place).isWithin (root.descend names) = false ↔ ¬names <+: place := by
    rw [← Path.isWithin_descend_iff root hnames hplace, Bool.not_eq_true]
  constructor
  · rintro ⟨place, content, isLocked, hafter, rfl⟩
    obtain ⟨hbefore, hnot⟩ := (hreaches place content isLocked).1 hafter
    exact ⟨⟨place, content, isLocked, hbefore, rfl⟩, (hoff (hbefore.isName hproper)).2 hnot⟩
  · rintro ⟨⟨place, content, isLocked, hbefore, rfl⟩, hpath⟩
    have hnot := (hoff (hbefore.isName hproper)).1 hpath
    exact ⟨place, content, isLocked, (hreaches place content isLocked).2 ⟨hbefore, hnot⟩, rfl⟩

end

/-- What is found below a root directory is each file that can be reached from it, once and in the
order of the paths, with one warning for each locked directory that can be reached. Locking a
further directory that does not hide the root takes away the files below it and leaves the others
as they are. -/
theorem discovers_reachable (hwalk : walk.IsOrdered)
    (hroot : tree.resolve .follow root = .ok place)
    (hdir : tree.root.at? place = some (.directory entries isLocked))
    (hproper : (Node.directory entries isLocked).IsProper) :
    (∀ path, path ∈ (walk.discover tree root).1 ↔
      ∃ names content isLocked',
        (Node.directory entries isLocked).Reaches names (.file content isLocked') ∧
          path = root.descend names) ∧
    (walk.discover tree root).1.Pairwise Path.Precedes ∧
    (∃ barred : List Path, barred.Pairwise Path.Precedes ∧
      (∀ path, path ∈ barred ↔ ∃ names below,
        (Node.directory entries isLocked).Reaches names (.directory below true) ∧
          path = root.descend names) ∧
      (walk.discover tree root).2.map (fun event => (event.severity, event.subject)) =
        barred.map fun path => (.warn, .path path)) ∧
    (∀ names below isLocked',
      (Node.directory entries isLocked).at? names = some (.directory below isLocked') →
      (tree.lockAt (place ++ names)).isThere root →
      (walk.discover (tree.lockAt (place ++ names)) root).1 =
        (walk.discover tree root).1.filter fun path => !path.isWithin (root.descend names)) ∧
    (∀ other below isLocked', tree.root.at? other = some (.directory below isLocked') →
      ¬place <+: other → (tree.lockAt other).isThere root →
      (walk.discover (tree.lockAt other) root).1 = (walk.discover tree root).1) := by
  have hnode := FileTree.find_eq_ok_iff.2 ⟨place, hroot, hdir⟩
  refine ⟨fun _ => mem_files_iff hwalk hnode, pairwise_files hwalk hnode hproper,
    exists_barred hwalk hnode hproper, ?_, ?_⟩
  · intro names below isLocked' hat hthere
    apply files_of_node_put hwalk hnode hproper hat
    exact FileTree.node_lockAt_below hroot hdir hat hthere
  · intro other below isLocked' hat hnot hthere
    apply files_eq_of_node_eq hwalk hnode hproper
    exact FileTree.node_lockAt_elsewhere hroot hdir hat hnot hthere

/-! ### A house with a locked directory -/

def room : List (String × Node) :=
  [("x", .file (.zeros 1) false), ("deep", .directory [("y", .file (.zeros 2) true)] false)]

def home : List (String × Node) :=
  [("b.txt", .file (.zeros 3) false), ("a.txt", .file (.zeros 4) false), ("link", .link "a"),
    ("a", .directory room false), ("shut", .directory [("z", .file (.zeros 5) false)] true)]

def house : FileTree where
  root := .directory [("attic", .directory [("old", .file (.zeros 6) false)] false),
    ("home", .directory home false)] false

theorem isProper_home : (Node.directory home false).IsProper := by
  have hroom : (Node.directory room false).IsProper := by
    refine .directory (by decide +kernel) (by decide +kernel) ?_
    simp only [room, List.forall_mem_cons]
    refine ⟨.file _ _, .directory (by decide +kernel) (by decide +kernel) ?_, nofun⟩
    simp only [List.forall_mem_cons]
    exact ⟨.file _ _, nofun⟩
  have hshut : (Node.directory [("z", .file (.zeros 5) false)] true).IsProper := by
    refine .directory (by decide +kernel) (by decide +kernel) ?_
    simp only [List.forall_mem_cons]
    exact ⟨.file _ _, nofun⟩
  refine .directory (by decide +kernel) (by decide +kernel) ?_
  simp only [home, List.forall_mem_cons]
  exact ⟨.file _ _, .file _ _, .link _, hroom, hshut, nofun⟩

theorem sights_home : (Node.directory home false).sights ⟨"home"⟩ =
    [.entry ⟨"home"⟩ false, .entry ⟨"home/a"⟩ false, .entry ⟨"home/a/deep"⟩ false,
      .entry ⟨"home/a/deep/y"⟩ true, .entry ⟨"home/a/x"⟩ true, .entry ⟨"home/a.txt"⟩ true,
      .entry ⟨"home/b.txt"⟩ true, .entry ⟨"home/link"⟩ false, .entry ⟨"home/shut"⟩ false,
      .unreadable ⟨"home/shut"⟩ .permissionDenied] := by
  simp [home, room, Node.sights, Node.sightsOfAll, inNameOrder, List.mergeSort, nameLe, Path.child]

theorem discovers_reachable_house :
    Walk.IsOrdered FileTree.walk ∧ house.resolve .follow ⟨"home"⟩ = .ok ["home"] ∧
      house.root.at? ["home"] = some (.directory home false) ∧
      (Node.directory home false).IsProper ∧
      (house.discover ⟨"home"⟩).1 =
        [⟨"home/a/deep/y"⟩, ⟨"home/a/x"⟩, ⟨"home/a.txt"⟩, ⟨"home/b.txt"⟩] ∧
      (house.discover ⟨"home"⟩).1.Pairwise Path.Precedes ∧
      (∃ barred : List Path, ⟨"home/shut"⟩ ∈ barred ∧
        (house.discover ⟨"home"⟩).2.map (fun event => (event.severity, event.subject)) =
          barred.map fun path => (.warn, .path path)) ∧
      (house.lockAt ["home", "a"]).isThere ⟨"home"⟩ ∧
      ((house.lockAt ["home", "a"]).discover ⟨"home"⟩).1 =
        [⟨"home/a.txt"⟩, ⟨"home/b.txt"⟩] ∧
      (house.lockAt ["attic"]).isThere ⟨"home"⟩ ∧
      ((house.lockAt ["attic"]).discover ⟨"home"⟩).1 = (house.discover ⟨"home"⟩).1 := by
  have hplain : FileTree.IsPlain "home" := by decide +kernel
  have hroot : house.resolve .follow ⟨"home"⟩ = .ok ["home"] :=
    FileTree.resolve_child (.directory home false) rfl nofun hplain
  have hdir : house.root.at? ["home"] = some (.directory home false) := rfl
  have hnode : house.node ⟨"home"⟩ = .ok (.directory home false) :=
    FileTree.node_child (.directory home false) rfl nofun hplain
  have hbelow : (house.lockAt ["home", "a"]).isThere ⟨"home"⟩ :=
    FileTree.isThere_child (.directory (Node.setEntry "a" (.directory room true) home) false) rfl
      nofun hplain
  have helsewhere : (house.lockAt ["attic"]).isThere ⟨"home"⟩ :=
    FileTree.isThere_child (.directory home false) rfl nofun hplain
  obtain ⟨-, hordered, ⟨barred, -, hbarred, hevents⟩, hlocked, hother⟩ :=
    discovers_reachable FileTree.isOrdered_walk hroot hdir isProper_home
  have hfiles : (house.discover ⟨"home"⟩).1 =
      [⟨"home/a/deep/y"⟩, ⟨"home/a/x"⟩, ⟨"home/a.txt"⟩, ⟨"home/b.txt"⟩] := by
    rw [FileTree.discover, discover, FileTree.walk_eq_sights hnode, sights_home]
    rfl
  have hshut : ⟨"home/shut"⟩ ∈ barred := by
    refine (hbarred _).2 ⟨["shut"], [("z", .file (.zeros 5) false)], ?_, by decide +kernel⟩
    exact .through (List.mem_of_getElem? (i := 4) rfl) (.here _)
  have hleft : ((house.lockAt ["home", "a"]).discover ⟨"home"⟩).1 =
      [⟨"home/a.txt"⟩, ⟨"home/b.txt"⟩] := by
    apply (hlocked ["a"] room false rfl hbelow).trans
    rw [← FileTree.discover, hfiles]
    decide +kernel
  exact ⟨FileTree.isOrdered_walk, hroot, hdir, isProper_home, hfiles, hordered,
    ⟨barred, hshut, hevents⟩, hbelow, hleft, helsewhere,
    hother ["attic"] _ false rfl (by decide +kernel) helsewhere⟩

end Walk

end FormatScan
