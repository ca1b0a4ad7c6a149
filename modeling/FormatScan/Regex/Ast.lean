import FormatScan.Regex.Fault
/-!
The structure of a pattern as it is written, with the span of each part.
-/

namespace FormatScan.Regex

inductive Flag where
  | caseInsensitive
  | multiLine
  | dotMatchesNewline
  | swapGreed
  | unicode
  | carriageReturn
  | ignoreWhitespace
deriving DecidableEq

def Flag.ofChar? : Char → Option Flag
  | 'i' => some caseInsensitive
  | 'm' => some multiLine
  | 's' => some dotMatchesNewline
  | 'U' => some swapGreed
  | 'u' => some unicode
  | 'R' => some carriageReturn
  | 'x' => some ignoreWhitespace
  | _ => none

/-- One letter of a flag group; `none` is the sign that turns off the flags behind it. -/
structure FlagItem where
  span : Span
  flag : Option Flag
deriving DecidableEq

def flagState (flag : Flag) (items : List FlagItem) : Option Bool :=
  go true items
where
  go (value : Bool) : List FlagItem → Option Bool
    | [] => none
    | item :: rest =>
      match item.flag with
      | none => go false rest
      | some other => if other = flag then some value else go value rest

structure Literal where
  span : Span
  char : Char
  /-- Written as `\x` with two digits, so that it names a byte where Unicode is off. -/
  isByteEscape : Bool
deriving DecidableEq

/-- The value of a literal that was written as a byte. -/
def Literal.byte? (l : Literal) : Option Nat :=
  if l.isByteEscape && l.char.toNat < 256 then some l.char.toNat else none

inductive Assertion where
  | startLine
  | endLine
  | startText
  | endText
  | wordBoundary
  | notWordBoundary
  | wordStart
  | wordEnd
  | wordStartHalf
  | wordEndHalf
deriving DecidableEq

inductive PerlKind where
  | digit
  | space
  | word
deriving DecidableEq

inductive AsciiKind where
  | alnum
  | alpha
  | ascii
  | blank
  | cntrl
  | digit
  | graph
  | lower
  | print
  | punct
  | space
  | upper
  | word
  | xdigit
deriving DecidableEq

def AsciiKind.ofName? : String → Option AsciiKind
  | "alnum" => some alnum
  | "alpha" => some alpha
  | "ascii" => some ascii
  | "blank" => some blank
  | "cntrl" => some cntrl
  | "digit" => some digit
  | "graph" => some graph
  | "lower" => some lower
  | "print" => some print
  | "punct" => some punct
  | "space" => some space
  | "upper" => some upper
  | "word" => some word
  | "xdigit" => some xdigit
  | _ => none

inductive PropertyQuery where
  | named (name : String)
  | valued (name value : String)
deriving DecidableEq

structure PropertyClass where
  span : Span
  negated : Bool
  query : PropertyQuery
deriving DecidableEq

structure PerlClass where
  span : Span
  negated : Bool
  kind : PerlKind
deriving DecidableEq

inductive SetOp where
  | intersection
  | difference
  | symmetricDifference
deriving DecidableEq

inductive ClassSet where
  | empty (span : Span)
  | literal (literal : Literal)
  | range (span : Span) (low high : Literal)
  | ascii (span : Span) (negated : Bool) (kind : AsciiKind)
  | property (cls : PropertyClass)
  | perl (cls : PerlClass)
  | bracketed (span : Span) (negated : Bool) (body : ClassSet)
  | union (span : Span) (items : List ClassSet)
  | op (span : Span) (kind : SetOp) (left right : ClassSet)

def ClassSet.span : ClassSet → Span
  | empty span => span
  | literal l => l.span
  | range span _ _ => span
  | ascii span _ _ => span
  | property cls => cls.span
  | perl cls => cls.span
  | bracketed span _ _ => span
  | union span _ => span
  | op span _ _ _ => span

inductive Ast where
  | empty (span : Span)
  | flags (span : Span) (items : List FlagItem)
  | literal (literal : Literal)
  | dot (span : Span)
  | assertion (span : Span) (kind : Assertion)
  | property (cls : PropertyClass)
  | perl (cls : PerlClass)
  | bracketed (span : Span) (negated : Bool) (body : ClassSet)
  | repetition (span : Span) (min : Nat) (max : Option Nat) (greedy : Bool) (body : Ast)
  | capture (span : Span) (body : Ast)
  | group (span : Span) (items : List FlagItem) (body : Ast)
  | alternation (span : Span) (branches : List Ast)
  | concat (span : Span) (parts : List Ast)

def Ast.span : Ast → Span
  | empty span => span
  | flags span _ => span
  | literal l => l.span
  | dot span => span
  | assertion span _ => span
  | property cls => cls.span
  | perl cls => cls.span
  | bracketed span _ _ => span
  | repetition span _ _ _ _ => span
  | capture span _ => span
  | group span _ _ => span
  | alternation span _ => span
  | concat span _ => span

end FormatScan.Regex
