import FormatScan.CommandLine.Session
/-!
The command. It takes a snapshot of the files that its arguments lead to, works on that, and prints
and writes what comes of it.
-/

namespace FormatScan.Main

open CommandLine

/-- The names from the root that a path leads to, without regard to links. -/
def namesOf (here : List String) (path : Path) : List String :=
  path.steps.foldl
    (fun names step =>
      match step with
      | .root => []
      | .here => names
      | .up => names.dropLast
      | .into name => names ++ [name])
    here

def entryOf (names : List String) : IO.FS.DirEntry where
  root := "/"
  fileName := "/".intercalate names

def kindOf? (entry : IO.FS.DirEntry) : IO (Option IO.FS.Metadata) :=
  try return some (← entry.path.metadata) catch _ => return none

/-- The content of a file; of one with more bytes than `limit` only the size. -/
def contentOf (limit : Nat) (entry : IO.FS.DirEntry) (size : Nat) : IO Node := do
  if limit < size then return .file (.zeros size) false
  try return .file (.bytes (← IO.FS.readBinFile entry.path)) false
  catch _ => return .file (.zeros size) true

/-- What an entry of a directory holds. What is neither a file nor a directory nor a link is shown
as an empty directory, which is not listed either. -/
partial def nodeOf (limit : Nat) (entry : IO.FS.DirEntry) : IO Node := do
  let data ← entry.path.symlinkMetadata
  match data.type with
  | .file => contentOf limit entry data.byteSize.toNat
  | .symlink => return .link ""
  | .other => return .empty
  | .dir =>
    try
      let entries ← entry.path.readDir
      let nodes ← entries.toList.mapM fun e => do return (e.fileName, ← nodeOf limit e)
      return .directory nodes false
    catch _ => return .directory [] true

/-- The node that a path of the command line leads to. A link is gone along only to a directory. -/
def rootOf (limit : Nat) (entry : IO.FS.DirEntry) : IO Node := do
  match (← entry.path.symlinkMetadata).type, ← kindOf? entry with
  | .symlink, some data =>
    if data.type == .dir then nodeOf limit { entry with fileName := entry.fileName ++ "/." }
    else return .empty
  | _, _ => nodeOf limit entry

def put (tree : FileTree) (names : List String) (node : Node) : FileTree :=
  { tree with root := tree.root.put names node }

def addParents (tree : FileTree) (names : List String) : IO FileTree := do
  let mut tree := tree
  for count in List.range names.length do
    let names := names.take count
    if (tree.root.at? names).isNone then
      match ← kindOf? (entryOf names) with
      | some data =>
        tree := put tree names (if data.type == .dir then .empty else .file (.zeros 0) false)
      | none => return tree
  return tree

def addPath (read : IO.FS.DirEntry → IO Node) (tree : FileTree) (path : Path) : IO FileTree := do
  let names := namesOf tree.here path
  let tree ← addParents tree names
  match ← kindOf? (entryOf names) with
  | some _ => return put tree names (← read (entryOf names))
  | none => return tree

/-- A file that is only written: its content does not matter. -/
def shallow (entry : IO.FS.DirEntry) : IO Node := do
  match ← kindOf? entry with
  | some data => return if data.type == .dir then .empty else .file (.zeros 0) false
  | none => return .empty

/-- A file of signatures, which is read whatever its size is. -/
def whole (entry : IO.FS.DirEntry) : IO Node := do
  match ← kindOf? entry with
  | some data =>
    if data.type == .dir then return .empty
    else contentOf data.byteSize.toNat entry data.byteSize.toNat
  | none => return .empty

def snapshot (o : Options) : IO FileTree := do
  let here ← IO.currentDir
  let start : FileTree := { here := namesOf [] ⟨here.toString⟩ }
  let tree ← addParents start (start.here ++ [""])
  let tree ← (o.json.toList ++ o.txt.toList).foldlM (addPath shallow) tree
  let tree ← o.signatures.toList.foldlM (addPath whole) tree
  addPath (rootOf o.maxFileSize) tree o.target

def processors : IO Nat := do
  try
    let text ← IO.FS.readFile "/proc/cpuinfo"
    return max 1 ((text.splitOn "\n").countP fun line => line.startsWith "processor")
  catch _ => return 1

def noticeText : Notice → String
  | .record r => r.level.name ++ " " ++ r.text
  | .text t => t

end FormatScan.Main

open FormatScan FormatScan.CommandLine FormatScan.Main in
def main (arguments : List String) : IO UInt32 := do
  let filter := Log.Filter.ofSetting (← IO.getEnv "DEVSCAN_LOG")
  let tree ←
    match parse arguments with
    | .ok (.scan o) => snapshot o
    | _ => pure {}
  let outcome := run { processors := ← processors, filter, tree } arguments
  for notice in outcome.notices do IO.eprintln (noticeText notice)
  for line in outcome.lines do IO.println line
  for (path, text) in outcome.written do IO.FS.writeFile path.text text
  return UInt32.ofNat outcome.code
