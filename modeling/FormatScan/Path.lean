/-!
Paths as texts. Two texts are the same path when they name the same steps: doubled and final
slashes and dots between steps do not count, but a dot at the beginning does.
-/

namespace FormatScan

structure Path where
  text : String
deriving DecidableEq

namespace Path

inductive Step where
  | root
  | here
  | up
  | into (name : String)
deriving DecidableEq

def pieces (chars : List Char) : List String :=
  go [] chars
where
  go (piece : List Char) : List Char → List String
    | [] => [String.ofList piece.reverse]
    | c :: rest =>
      if c = '/' then String.ofList piece.reverse :: go [] rest else go (c :: piece) rest

def stepOfPiece? (piece : String) : Option Step :=
  if piece = "" ∨ piece = "." then none
  else if piece = ".." then some .up
  else some (.into piece)

def steps (path : Path) : List Step :=
  let pieces := pieces path.text.toList
  let first : List Step :=
    if path.text.toList.head? = some '/' then [.root]
    else if pieces.head? = some "." then [.here]
    else []
  first ++ pieces.filterMap stepOfPiece?

def same (a b : Path) : Bool := a.steps == b.steps

def child (path : Path) (name : String) : Path :=
  if path.text = "" then ⟨name⟩
  else if path.text.toList.getLast? = some '/' then ⟨path.text ++ name⟩
  else ⟨path.text ++ "/" ++ name⟩

end Path

end FormatScan
