import FormatScan.Regex.Expr
import FormatScan.Unicode.Utf8
/-!
Patterns in normal form: literal bytes that follow one another are one literal, sequences and
choices are flat, and a choice among single characters is a class. The size of the automata of a
pattern is counted on its normal form.
-/

namespace FormatScan.Regex

inductive NormalForm where
  | empty
  /-- Bytes, at least one. -/
  | literal (bytes : List Nat)
  /-- One byte of some ranges. -/
  | byte (ranges : List (Nat × Nat))
  /-- One character of some ranges. -/
  | scalar (ranges : Unicode.Ranges)
  | look (condition : Look)
  | repeated (min : Nat) (max : Option Nat) (greedy : Bool) (body : NormalForm)
  | capture (start : Nat) (body : NormalForm)
  | concat (parts : List NormalForm)
  | choice (branches : List NormalForm)

namespace NormalForm

mutual

def same : NormalForm → NormalForm → Bool
  | .empty, .empty => true
  | .literal a, .literal b => a == b
  | .byte a, .byte b => a == b
  | .scalar a, .scalar b => a == b
  | .look a, .look b => a == b
  | .repeated min max greedy a, .repeated min' max' greedy' b =>
    min == min' && max == max' && greedy == greedy' && a.same b
  | .capture start a, .capture start' b => start == start' && a.same b
  | .concat as, .concat bs => sameAll as bs
  | .choice as, .choice bs => sameAll as bs
  | _, _ => false

def sameAll : List NormalForm → List NormalForm → Bool
  | [], [] => true
  | a :: as, b :: bs => a.same b && sameAll as bs
  | _, _ => false

end

mutual

/-- The least number of bytes of a match; none if nothing matches. -/
def minLength? : NormalForm → Option Nat
  | .empty => some 0
  | .literal bytes => some bytes.length
  | .byte ranges => if ranges.isEmpty then none else some 1
  | .scalar ranges => ranges.head?.map fun r => (Unicode.utf8Bytes r.1).length
  | .look _ => some 0
  | .repeated min _ _ body => body.minLength?.map (min * ·)
  | .capture _ body => body.minLength?
  | .concat parts => minLengthOfAll? parts
  | .choice branches => minLengthOfAny? branches

def minLengthOfAll? : List NormalForm → Option Nat
  | [] => some 0
  | part :: rest => do return (← part.minLength?) + (← minLengthOfAll? rest)

def minLengthOfAny? : List NormalForm → Option Nat
  | [] => none
  | [branch] => branch.minLength?
  | branch :: rest => do return min (← branch.minLength?) (← minLengthOfAny? rest)

end

mutual

/-- The greatest number of bytes of a match; none if there is no bound, or no match. -/
def maxLength? : NormalForm → Option Nat
  | .empty => some 0
  | .literal bytes => some bytes.length
  | .byte ranges => if ranges.isEmpty then none else some 1
  | .scalar ranges => ranges.getLast?.map fun r => (Unicode.utf8Bytes r.2).length
  | .look _ => some 0
  | .repeated _ max _ body => do return (← max) * (← body.maxLength?)
  | .capture _ body => body.maxLength?
  | .concat parts => maxLengthOfAll? parts
  | .choice branches => maxLengthOfAny? branches

def maxLengthOfAll? : List NormalForm → Option Nat
  | [] => some 0
  | part :: rest => do return (← part.maxLength?) + (← maxLengthOfAll? rest)

def maxLengthOfAny? : List NormalForm → Option Nat
  | [] => none
  | [branch] => branch.maxLength?
  | branch :: rest => do return max (← branch.maxLength?) (← maxLengthOfAny? rest)

end

/-- Whether no match takes up a byte, and there may be one. -/
def isWeightless (n : NormalForm) : Bool := n.maxLength? == some 0

mutual

def startsAtText : NormalForm → Bool
  | .look condition => condition == .textStart
  | .repeated min _ _ body => 0 < min && body.startsAtText
  | .capture _ body => body.startsAtText
  | .concat parts => firstStartsAtText parts
  | .choice branches => allStartAtText branches
  | _ => false

/-- Of parts in a row, those count up to the first that takes up bytes. -/
def firstStartsAtText : List NormalForm → Bool
  | [] => false
  | part :: rest => part.startsAtText || (part.isWeightless && firstStartsAtText rest)

def allStartAtText : List NormalForm → Bool
  | [] => true
  | branch :: rest => branch.startsAtText && allStartAtText rest

end

mutual

def endsAtText : NormalForm → Bool
  | .look condition => condition == .textEnd
  | .repeated min _ _ body => 0 < min && body.endsAtText
  | .capture _ body => body.endsAtText
  | .concat parts => lastEndsAtText parts
  | .choice branches => allEndAtText branches
  | _ => false

def lastEndsAtText : List NormalForm → Bool
  | [] => false
  | part :: rest => lastEndsAtText rest || (allWeightless rest && part.endsAtText)

def allEndAtText : List NormalForm → Bool
  | [] => true
  | branch :: rest => branch.endsAtText && allEndAtText rest

def allWeightless : List NormalForm → Bool
  | [] => true
  | part :: rest => part.isWeightless && allWeightless rest

end

/-- One byte of a class. A class of one byte is a literal. -/
def ofBytes : List (Nat × Nat) → NormalForm
  | [(low, high)] => if low = high then .literal [low] else .byte [(low, high)]
  | ranges => .byte ranges

/-- One character of a class. A class of one character is a literal, and a class without any is one
of bytes. -/
def ofScalars : Unicode.Ranges → NormalForm
  | [] => .byte []
  | [(low, high)] => if low = high then .literal (Unicode.utf8Bytes low) else .scalar [(low, high)]
  | ranges => .scalar ranges

def parts : NormalForm → List NormalForm
  | .empty => []
  | .concat parts => parts
  | n => [n]

def ofParts : List NormalForm → NormalForm
  | [] => .empty
  | [part] => part
  | parts => .concat parts

/-- Puts two rows of parts together; literals that meet become one. -/
def joinParts : List NormalForm → List NormalForm → List NormalForm
  | [], bs => bs
  | [.literal a], .literal b :: bs => .literal (a ++ b) :: bs
  | a :: as, bs => a :: joinParts as bs

def append (a b : NormalForm) : NormalForm := ofParts (joinParts a.parts b.parts)

/-- A repetition. What takes up no bytes is done once at most. -/
def repeatOf (min : Nat) (max : Option Nat) (greedy : Bool) (body : NormalForm) : NormalForm :=
  let (min, max) :=
    if body.isWeightless then (Nat.min min 1, some (Nat.min (max.getD 1) 1)) else (min, max)
  match min, max with
  | 0, some 0 => .empty
  | 1, some 1 => body
  | _, _ => .repeated min max greedy body

def branches : NormalForm → List NormalForm
  | .choice branches => branches
  | n => [n]

def char? : NormalForm → Option Nat
  | .literal bytes => do
    if 4 < bytes.length then none
    match (← String.fromUTF8? ⟨(bytes.map UInt8.ofNat).toArray⟩).toList with
    | [c] => some c.toNat
    | _ => none
  | _ => none

def byte? : NormalForm → Option Nat
  | .literal [b] => some b
  | _ => none

def isAscii (ranges : List (Nat × Nat)) : Bool := ranges.all fun r => r.2 < 128

/-- The characters of a class; bytes are characters if they are of ASCII. -/
def scalars? : NormalForm → Option Unicode.Ranges
  | .scalar ranges => some ranges
  | .byte ranges => if isAscii ranges then some ranges else none
  | _ => none

def bytes? : NormalForm → Option (List (Nat × Nat))
  | .byte ranges => some ranges
  | .scalar ranges => if isAscii ranges then some ranges else none
  | _ => none

/-- The class that a choice among single characters, single bytes or classes comes to. -/
def classOf? (branches : List NormalForm) : Option NormalForm :=
  let points (ns : List Nat) : Unicode.Ranges := Unicode.Ranges.normalize (ns.map fun n => (n, n))
  ((branches.mapM char?).map fun chars => ofScalars (points chars)).or
    (((branches.mapM byte?).map fun bytes => ofBytes (points bytes)).or
      (((branches.mapM scalars?).map fun sets => ofScalars (sets.foldl Unicode.Ranges.union [])).or
        ((branches.mapM bytes?).map fun sets => ofBytes (sets.foldl Unicode.Ranges.union []))))

def sequence? : NormalForm → Option (List NormalForm)
  | .concat parts => some parts
  | _ => none

def commonLength : List NormalForm → List NormalForm → Nat
  | a :: as, b :: bs => if a.same b then commonLength as bs + 1 else 0
  | _, _ => 0

/-- The number of parts that sequences, one for each branch, begin with alike. -/
def sharedLength (rows : List (List NormalForm)) : Nat :=
  match rows with
  | [] => 0
  | row :: rest => rest.foldl (fun count other => min count (commonLength row other)) row.length

mutual

def weight : NormalForm → Nat
  | .repeated _ _ _ body => body.weight + 1
  | .capture _ body => body.weight + 1
  | .concat parts => weightOfAll parts + 1
  | .choice branches => weightOfAll branches + 1
  | _ => 1

def weightOfAll : List NormalForm → Nat
  | [] => 0
  | part :: rest => part.weight + weightOfAll rest

end

/-- Makes a choice, and takes what all branches begin with out of it, up to `fuel` times over. -/
def choiceWith : (fuel : Nat) → List NormalForm → NormalForm
  | 0, branches => .choice branches
  | fuel + 1, branches =>
    match branches.flatMap NormalForm.branches with
    | [branch] => branch
    | branches =>
      match classOf? branches with
      | some set => set
      | none =>
        match branches.mapM sequence? with
        | none => .choice branches
        | some rows =>
          match sharedLength rows with
          | 0 => .choice branches
          | count =>
            let rest := choiceWith fuel (rows.map fun row => ofParts (row.drop count))
            append (ofParts ((rows.headD []).take count)) rest

/-- A choice between branches. Each round of taking out a common beginning leaves fewer nodes. -/
def choiceOf (branches : List NormalForm) : NormalForm :=
  match branches with
  | [branch] => branch
  | branches => choiceWith (weightOfAll branches + 1) branches

def branchesOf : Expr → List NormalForm
  | .empty => [.empty]
  | .byte set => [ofBytes set.toRanges]
  | .scalar set => [ofScalars set]
  | .look condition => [.look condition]
  | .seq first second => [append (choiceOf (branchesOf first)) (choiceOf (branchesOf second))]
  | .alt left right => choiceOf (branchesOf left) :: branchesOf right
  | .repeated min max greedy body => [repeatOf min max greedy (choiceOf (branchesOf body))]
  | .group none body => [choiceOf (branchesOf body)]
  | .group (some start) body => [.capture start (choiceOf (branchesOf body))]

def ofExpr (e : Expr) : NormalForm := choiceOf (branchesOf e)

mutual

def hasUnicodeEdge : NormalForm → Bool
  | .look (.word unicode _) => unicode
  | .repeated _ _ _ body => body.hasUnicodeEdge
  | .capture _ body => body.hasUnicodeEdge
  | .concat parts => anyHasUnicodeEdge parts
  | .choice branches => anyHasUnicodeEdge branches
  | _ => false

def anyHasUnicodeEdge : List NormalForm → Bool
  | [] => false
  | part :: rest => part.hasUnicodeEdge || anyHasUnicodeEdge rest

end

end NormalForm

end FormatScan.Regex
