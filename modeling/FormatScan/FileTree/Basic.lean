import FormatScan.FileError
import FormatScan.Path
/-!
A tree of files, and how a path leads through it.

Names are texts: a name whose bytes are no UTF-8 has no place in a tree. Neither have sockets, pipes
and devices, which a walk would pass over and a scan would skip like a directory.
-/

namespace FormatScan

inductive Content where
  | bytes (data : ByteArray)
  /-- A file of zeros that takes up no space. -/
  | zeros (count : Nat)
  /-- A file that the system refuses to map into memory, for whatever reason it has. -/
  | unmappable (count : Nat) (reason : FileError)

namespace Content

def size : Content → Nat
  | .bytes data => data.size
  | .zeros count => count
  | .unmappable count _ => count

def map : Content → Except FileError ByteArray
  | .bytes data => .ok data
  | .zeros count => .ok ⟨Array.replicate count 0⟩
  | .unmappable _ reason => .error reason

end Content

/-- Nobody may read a locked file, or list a locked directory or go through it. -/
inductive Node where
  | file (content : Content) (isLocked : Bool)
  | directory (entries : List (String × Node)) (isLocked : Bool)
  | link (target : String)

namespace Node

def empty : Node := .directory [] false

def entries : Node → List (String × Node)
  | .directory entries _ => entries
  | _ => []

def child? (node : Node) (name : String) : Option Node :=
  (node.entries.find? (·.1 = name)).map (·.2)

/-- The node that names lead to, without going along links. -/
def at? : Node → List String → Option Node
  | node, [] => some node
  | node, name :: names => (node.child? name).bind (·.at? names)

def setEntry (name : String) (node : Node) : List (String × Node) → List (String × Node)
  | [] => [(name, node)]
  | (other, n) :: rest =>
    if other = name then (name, node) :: rest else (other, n) :: setEntry name node rest

/-- Puts a node where names lead to, and makes the directories on the way there. -/
def put (node : Node) (names : List String) (new : Node) : Node :=
  match names with
  | [] => new
  | name :: names =>
    let below := ((node.child? name).getD empty).put names new
    match node with
    | .directory entries isLocked => .directory (setEntry name below entries) isLocked
    | _ => .directory [(name, below)] false

def setLocked (isLocked : Bool) : Node → Node
  | .file content _ => .file content isLocked
  | .directory entries _ => .directory entries isLocked
  | .link target => .link target

def enter : Node → Except FileError Unit
  | .directory _ false => .ok ()
  | .directory _ true => .error .permissionDenied
  | _ => .error .notADirectory

end Node

inductive LastName where
  /-- It is there; a link is gone along. -/
  | follow
  /-- It is there; a link stands for itself. -/
  | keepLink
  /-- It need not be there and is no directory; a link is gone along. -/
  | mayBeMissing
deriving DecidableEq

structure FileTree where
  root : Node := .empty
  /-- The names that lead to the directory where relative paths begin. -/
  here : List String := []

namespace FileTree

def linkLimit : Nat := 40

def nameLimit : Nat := 255

/-- The number of bytes that a path may have, less one. -/
def pathLimit : Nat := 4096

/-- Where the pieces of a path lead to from the place `at'`, along at most `links` links. A name
with a slash behind it asks for a directory, and is refused at once where none is wanted. -/
def follow (root : Node) (last : LastName) (links : Nat) (at' : List String) :
    List String → Except FileError (List String)
  | [] => .ok at'
  | piece :: rest =>
    match root.at? at' with
    | none => .error .notFound
    | some node =>
      if piece = "" then
        if rest.isEmpty then
          match node with
          | .directory .. => .ok at'
          | _ => .error .notADirectory
        else follow root last links at' rest
      else
        match node.enter with
        | .error e => .error e
        | .ok () =>
          if piece = "." then follow root last links at' rest
          else if piece = ".." then follow root last links at'.dropLast rest
          else if last = .mayBeMissing ∧ !rest.isEmpty ∧ rest.all String.isEmpty then
            .error .isADirectory
          else if nameLimit < piece.utf8ByteSize then .error .nameTooLong
          else
            match node.child? piece with
            | none =>
              if rest.isEmpty ∧ last = .mayBeMissing then .ok (at' ++ [piece])
              else .error .notFound
            | some (.link target) =>
              if rest.isEmpty ∧ last = .keepLink then .ok (at' ++ [piece])
              else
                match links with
                | 0 => .error .tooManyLinks
                | links + 1 =>
                  let start := if target.toList.head? = some '/' then [] else at'
                  follow root last links start (Path.pieces target.toList ++ rest)
            | some _ => follow root last links (at' ++ [piece]) rest
termination_by pieces => (links, pieces.length)

/-- Where a path leads to, as names from the root. -/
def resolve (tree : FileTree) (last : LastName) (path : Path) : Except FileError (List String) :=
  let chars := path.text.toList
  if chars.contains '\x00' then .error .nulInName
  else if chars.isEmpty then .error .notFound
  else if pathLimit ≤ path.text.utf8ByteSize then .error .nameTooLong
  else
    let start := if chars.head? = some '/' then [] else tree.here
    follow tree.root last linkLimit start (Path.pieces chars)

def find (tree : FileTree) (last : LastName) (path : Path) : Except FileError Node := do
  let names ← tree.resolve last path
  match tree.root.at? names with
  | some node => return node
  | none => .error .notFound

def node (tree : FileTree) (path : Path) : Except FileError Node := tree.find .follow path

def isThere (tree : FileTree) (path : Path) : Bool := (tree.node path).isOk

/-- Opens a file to read it. A directory opens as well, but has no content. -/
def read (tree : FileTree) (path : Path) : Except FileError Content := do
  match ← tree.node path with
  | .file content false => return content
  | .directory _ false => .error .isADirectory
  | _ => .error .permissionDenied

def readText (tree : FileTree) (path : Path) : Except FileError String := do
  let bytes ← (← tree.read path).map
  match String.fromUTF8? bytes with
  | some text => return text
  | none => .error .invalidText

/-- Writes a file, which need not have been there. -/
def write (tree : FileTree) (path : Path) (text : String) : Except FileError FileTree := do
  let names ← tree.resolve .mayBeMissing path
  match tree.root.at? names with
  | some (.directory ..) => .error .isADirectory
  | some (.file _ true) => .error .permissionDenied
  | _ => return { tree with root := tree.root.put names (.file (.bytes text.toUTF8) false) }

end FileTree

end FormatScan
