import FormatScan.Event
import FormatScan.FileTree.Basic
/-!
Finding the files below a root. A walk goes through the tree and says what it comes across; links
below the root are not gone along. What a walk cannot read is told of, and the search goes on with
what it comes across elsewhere.
-/

namespace FormatScan

inductive Sight where
  | entry (path : Path) (isFile : Bool)
  /-- Something that cannot be read; it need not be known where it is. -/
  | failure (path? : Option Path) (reason : String)

namespace Sight

def unreadable (path : Path) (error : FileError) : Sight :=
  .failure (some path) ("IO error for operation on " ++ path.text ++ ": " ++ error.message)

def file? : Sight → Option Path
  | .entry path true => some path
  | _ => none

/-- The warning about a failure; one from nowhere is blamed on the root. -/
def warning? (root : Path) : Sight → Option Event
  | .failure path? reason =>
    some (.pathWarning (path?.getD root) ("traversal error: " ++ reason))
  | .entry .. => none

end Sight

abbrev Walk := FileTree → Path → List Sight

def Walk.discover (walk : Walk) (tree : FileTree) (root : Path) : List Path × List Event :=
  let sights := walk tree root
  (sights.filterMap Sight.file?, sights.filterMap (Sight.warning? root))

def nameLe {α : Type} (a b : String × α) : Bool := a.1 ≤ b.1

def inNameOrder {α : Type} (parts : List (String × List α)) : List α :=
  (parts.mergeSort nameLe).flatMap (·.2)

namespace Node

mutual

/-- What there is from a node on, which `path` leads to: a directory stands before its entries. -/
def sights (path : Path) : Node → List Sight
  | .file .. => [.entry path true]
  | .link _ => [.entry path false]
  | .directory entries isLocked =>
    .entry path false ::
      if isLocked then [.unreadable path .permissionDenied]
      else inNameOrder (sightsOfAll path entries)

def sightsOfAll (path : Path) : List (String × Node) → List (String × List Sight)
  | [] => []
  | (name, node) :: rest => (name, node.sights (path.child name)) :: sightsOfAll path rest

end

end Node

namespace FileTree

/-- Goes through a tree in the order of names. A root that is a link to a directory is gone
along. -/
def walk : Walk := fun tree root =>
  match tree.find .keepLink root with
  | .error e => [.unreadable root e]
  | .ok (.link _) =>
    match tree.node root with
    | .error e => [.unreadable root e]
    | .ok (.directory entries isLocked) => (Node.directory entries isLocked).sights root
    | .ok _ => [.entry root false]
  | .ok node => node.sights root

def discover (tree : FileTree) (root : Path) : List Path × List Event := walk.discover tree root

end FileTree

end FormatScan
