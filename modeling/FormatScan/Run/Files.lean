import FormatScan.FileTree.Discovery
import FormatScan.Run.Scanner
import FormatScan.Signature.Load
/-!
Runs over the files of a tree.
-/

namespace FormatScan

/-- An empty file counts without being opened; a file that is no regular one, cannot be read or is
above the limit is told of and skipped. -/
def visitPath (tree : FileTree) (limit : Nat) : Visit Path := fun engine _ path stats =>
  let skip (message : String) : Stats × List Event := (stats, [.pathWarning path message])
  match tree.node path with
  | .error e => skip ("cannot stat: " ++ e.message)
  | .ok (.file content _) =>
    if content.size = 0 then (stats.fileProcessed, [])
    else if limit < content.size then skip (ceilingText content.size limit)
    else
      match tree.read path with
      | .error e => skip ("cannot open: " ++ e.message)
      | .ok content =>
        match content.map with
        | .error e => skip ("cannot map: " ++ e.message)
        | .ok bytes => (engine.scanFile bytes stats, [])
  | .ok _ => skip "not a regular file, skipped"

def Scanner.scanPaths (scanner : Scanner) (tree : FileTree) (refuses : Event → Bool)
    (paths : List Path) : RunOutcome :=
  scanner.run (visitPath tree scanner.config.maxFileSize) refuses paths

def Signature.load (tree : FileTree) (path : Path) :
    Except ScanError (List Signature × List Event) :=
  match tree.readText path with
  | .error e => .error (.file e)
  | .ok text => Signature.parse text

end FormatScan
