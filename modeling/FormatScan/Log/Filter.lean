import FormatScan.Log.FieldValue
import FormatScan.Log.Record
import FormatScan.Text.Blank
import FormatScan.Text.Whole
import FormatScan.Unicode.Newest
/-!
Filters of the log: directives, separated by commas, that say how much is logged of what comes from
a part of the program. Of several directives that fit a record the most specific one decides.
-/

namespace FormatScan.Log

structure Directive where
  /-- The beginning of the names of the parts that are meant; all parts if there is none. -/
  target : Option String
  /-- Fields that a record must have. -/
  fields : List String := []
  /-- The greatest verbosity that is logged, and zero for nothing. -/
  verbosity : Nat
deriving DecidableEq

namespace Directive

/-- The verbosities by their names; letters of ASCII may be of either case. -/
def verbosityOfName? (name : String) : Option Nat :=
  match String.ofList (name.toList.map Char.toLower) with
  | "off" => some 0
  | "" => some 1
  | "error" => some 1
  | "warn" => some 2
  | "info" => some 3
  | "debug" => some 4
  | "trace" => some 5
  | _ => none

def verbosityOf? (name : String) : Option Nat :=
  match Text.whole64 name with
  | .ok n => if n ≤ 5 then some n else none
  | .error _ => verbosityOfName? name

/-- The verbosity behind an equals sign, the greatest one if nothing stands there. -/
def givenVerbosity? (name : String) : Option Nat :=
  if name = "" then some 5 else verbosityOf? name

def fits (d : Directive) (record : Record) : Bool :=
  (match d.target with
    | some target => target.toList.isPrefixOf record.target.toList
    | none => true) &&
  d.fields.all fun name => name = "message" || record.fields.any (·.1 = name)

/-- How specific a directive is, first by the length of its target. -/
def rank (d : Directive) : Nat × Nat :=
  (match d.target with
    | some target => target.utf8ByteSize + 1
    | none => 0,
    d.fields.length)

def textsLe : List String → List String → Bool
  | [], _ => true
  | _, [] => false
  | a :: as, b :: bs => a < b || (a == b && textsLe as bs)

/-- Whether the second of two directives that fit a record decides. -/
def yields (a b : Directive) : Bool :=
  if a.rank.1 ≠ b.rank.1 then a.rank.1 < b.rank.1
  else if a.rank.2 ≠ b.rank.2 then a.rank.2 < b.rank.2
  else textsLe a.fields b.fields

def canBegin (c : Char) : Bool :=
  c == '-' || c == ':' || c == '_' || Unicode.isAlphabetic c || Unicode.isNumeric c

def splitAt (test : Char → Bool) (chars : List Char) : List Char × List Char :=
  (chars.takeWhile fun c => !test c, chars.dropWhile fun c => !test c)

def pieces (separator : Char) (chars : List Char) : List (List Char) :=
  go [] chars
where
  go (piece : List Char) : List Char → List (List Char)
    | [] => [piece.reverse]
    | c :: rest => if c = separator then piece.reverse :: go [] rest else go (c :: piece) rest

/-- What a directive asks of spans. Nothing is logged inside a span, so that a directive that asks
for a span by its name or by the value of a field is never met. -/
structure SpanPart where
  isMet : Bool
  fields : List String

def byteLength (chars : List Char) : Nat := chars.foldl (fun n c => n + c.utf8Size) 0

def dropBytes : Nat → List Char → List Char
  | _, [] => []
  | 0, chars => chars
  | n, c :: rest => dropBytes (n - c.utf8Size) rest

def takeBytes : Nat → List Char → List Char
  | _, [] => []
  | 0, _ => []
  | n, c :: rest => c :: takeBytes (n - c.utf8Size) rest

/-- A directive as it is written, and what is read of it: the text without the blanks around it. The
places of the parts are found in what is read, and the parts are cut out of what is written. -/
structure Source where
  written : List Char

namespace Source

def body (s : Source) : List Char := Text.trimBlanks s.written

/-- What is written from the place on where `rest` is all that is left to read. -/
def cutFrom (s : Source) (rest : List Char) : List Char :=
  dropBytes (byteLength s.body - byteLength rest) s.written

def cut (s : Source) (first last : List Char) : List Char :=
  takeBytes (byteLength first - byteLength last) (s.cutFrom first)

end Source

def spanField? (field : List Char) : Option SpanPart :=
  match pieces '=' field with
  | name :: value :: _ =>
    if FieldValue.isReadable value then some ⟨false, [String.ofList name]⟩ else none
  | _ => some ⟨true, [String.ofList field]⟩

def spanPart? (source : Source) (chars : List Char) : Option (SpanPart × List Char) :=
  let (name, rest) := splitAt (fun c => c == ']' || c == '\x7b') chars
  match rest with
  | ']' :: rest => some (⟨false, []⟩, rest)
  | '\x7b' :: inside =>
    let (field, rest) := splitAt (· == '\x7d') inside
    if field.isEmpty then none
    else
      match rest with
      | '\x7d' :: ']' :: behind => do
        let part ← spanField? (source.cut inside rest)
        return (⟨name.isEmpty && part.isMet, part.fields⟩, behind)
      | _ => none
  | _ => none

/-- Reads one directive. A directive that can never be met is read as none. -/
def parse? (text : List Char) : Option (List Directive) :=
  let source : Source := ⟨text⟩
  match source.body with
  | [] => none
  | first :: _ =>
    if first ≠ '[' ∧ !canBegin first then none
    else
      let (name, rest) := splitAt (fun c => c == '=' || c == '[') source.body
      let target :=
        if name.isEmpty then none else some (String.ofList (source.cut source.body rest))
      let levelAt (level : List Char) : Option Nat :=
        givenVerbosity? (String.ofList (source.cutFrom level))
      match rest with
      | [] =>
        match verbosityOf? (String.ofList text) with
        | some verbosity => some [⟨none, [], verbosity⟩]
        | none => some [⟨some (String.ofList text), [], 5⟩]
      | '=' :: level => (levelAt level).map fun verbosity => [⟨target, [], verbosity⟩]
      | _ :: rest => do
        let (span, rest) ← spanPart? source rest
        let verbosity ←
          match rest with
          | [] => some 5
          | '=' :: level => levelAt level
          | _ => none
        return if span.isMet then [⟨target, span.fields, verbosity⟩] else []

end Directive

structure Filter where
  directives : List Directive
deriving DecidableEq

namespace Filter

def standard : Filter := ⟨[⟨none, [], 3⟩]⟩

/-- Reads directives. Errors alone are logged if there is none. -/
def parse? (text : String) : Option Filter := do
  let parts := (Directive.pieces ',' text.toList).filter fun part => !part.isEmpty
  let directives ← parts.mapM Directive.parse?
  return if parts.isEmpty then ⟨[⟨none, [], 1⟩]⟩ else ⟨directives.flatten⟩

def ofSetting (setting : Option String) : Filter := (setting.bind parse?).getD standard

/-- The directive that decides about a record; of equals the last. -/
def deciding? (filter : Filter) (record : Record) : Option Directive :=
  (filter.directives.filter (·.fits record)).foldl
    (fun best d =>
      match best with
      | none => some d
      | some b => if b.yields d then some d else some b)
    none

def admits (filter : Filter) (record : Record) : Bool :=
  match filter.deciding? record with
  | some d => record.level.verbosity ≤ d.verbosity
  | none => false

end Filter

end FormatScan.Log
