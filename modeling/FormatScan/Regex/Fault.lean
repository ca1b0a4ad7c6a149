import FormatScan.Regex.Source
/-!
What can be wrong with a pattern, and the report that points at it.
-/

namespace FormatScan.Regex

inductive Fault where
  | classEscapeInvalid
  | classRangeInvalid
  | classRangeLiteral
  | classUnclosed
  | decimalEmpty
  | decimalInvalid
  | hexEmpty
  | hexInvalid
  | hexInvalidDigit
  | escapeUnexpectedEnd
  | escapeUnrecognized
  | flagDanglingNegation
  | flagDuplicate (first : Span)
  | flagRepeatedNegation (first : Span)
  | flagUnexpectedEnd
  | flagUnrecognized
  | groupNameDuplicate (first : Span)
  | groupNameEmpty
  | groupNameInvalid
  | groupNameUnexpectedEnd
  | groupUnclosed
  | groupUnopened
  | nestLimitExceeded (limit : Nat)
  | countInvalid
  | countEmpty
  | countUnclosed
  | repetitionMissing
  | wordBoundaryUnclosed
  | wordBoundaryUnrecognized
  | wordBoundaryUnexpectedEnd
  | unicodeClassInvalid
  | backreference
  | lookAround
  | unicodeNotAllowed
  | propertyNotFound
  | propertyValueNotFound
  | notText
deriving DecidableEq

def Fault.message : Fault → String
  | classEscapeInvalid => "invalid escape sequence found in character class"
  | classRangeInvalid => "invalid character class range, the start must be <= the end"
  | classRangeLiteral => "invalid range boundary, must be a literal"
  | classUnclosed => "unclosed character class"
  | decimalEmpty => "decimal literal empty"
  | decimalInvalid => "decimal literal invalid"
  | hexEmpty => "hexadecimal literal empty"
  | hexInvalid => "hexadecimal literal is not a Unicode scalar value"
  | hexInvalidDigit => "invalid hexadecimal digit"
  | escapeUnexpectedEnd => "incomplete escape sequence, reached end of pattern prematurely"
  | escapeUnrecognized => "unrecognized escape sequence"
  | flagDanglingNegation => "dangling flag negation operator"
  | flagDuplicate _ => "duplicate flag"
  | flagRepeatedNegation _ => "flag negation operator repeated"
  | flagUnexpectedEnd => "expected flag but got end of regex"
  | flagUnrecognized => "unrecognized flag"
  | groupNameDuplicate _ => "duplicate capture group name"
  | groupNameEmpty => "empty capture group name"
  | groupNameInvalid => "invalid capture group character"
  | groupNameUnexpectedEnd => "unclosed capture group name"
  | groupUnclosed => "unclosed group"
  | groupUnopened => "unopened group"
  | nestLimitExceeded limit =>
    "exceed the maximum number of nested parentheses/brackets (" ++ toString limit ++ ")"
  | countInvalid => "invalid repetition count range, the start must be <= the end"
  | countEmpty => "repetition quantifier expects a valid decimal"
  | countUnclosed => "unclosed counted repetition"
  | repetitionMissing => "repetition operator missing expression"
  | wordBoundaryUnclosed =>
    "special word boundary assertion is either unclosed or contains an invalid character"
  | wordBoundaryUnrecognized =>
    "unrecognized special word boundary assertion, valid choices are: " ++
      "start, end, start-half or end-half"
  | wordBoundaryUnexpectedEnd =>
    "found either the beginning of a special word boundary or a bounded repetition on a \\b " ++
      "with an opening brace, but no closing brace"
  | unicodeClassInvalid => "invalid Unicode character class"
  | backreference => "backreferences are not supported"
  | lookAround => "look-around, including look-ahead and look-behind, is not supported"
  | unicodeNotAllowed => "Unicode not allowed here"
  | propertyNotFound => "Unicode property not found"
  | propertyValueNotFound => "Unicode property value not found"
  | notText => "pattern can match invalid UTF-8"

/-- The earlier place that a report points at as well. -/
def Fault.related : Fault → Option Span
  | flagDuplicate first => some first
  | flagRepeatedNegation first => some first
  | groupNameDuplicate first => some first
  | _ => none

structure PatternError where
  fault : Fault
  span : Span
deriving DecidableEq

namespace PatternError

/-- Splits a text at its line feeds; the last line is there only if it is not empty, and a
carriage return in front of a line feed belongs to the line feed. -/
def lines (text : List Char) : List (List Char) :=
  go [] text
where
  go (line : List Char) : List Char → List (List Char)
    | [] => if line.isEmpty then [] else [line.reverse]
    | c :: rest =>
      if c = '\n' then
        (match line with
          | '\r' :: before => before.reverse
          | _ => line.reverse) :: go [] rest
      else go (c :: line) rest

def spans (e : PatternError) : List Span :=
  match e.fault.related with
  | none => [e.span]
  | some other =>
    if other.first.offset ≤ e.span.first.offset then [other, e.span] else [e.span, other]

def carets (margin : Nat) (spans : List Span) : String :=
  String.ofList (List.replicate margin ' ') ++ go 0 spans
where
  go (column : Nat) : List Span → String
    | [] => ""
    | s :: rest =>
      let gap := s.first.column - 1 - column
      let width := max 1 (s.last.column - s.first.column)
      String.ofList (List.replicate gap ' ' ++ List.replicate width '^') ++
        go (column + gap + width) rest

/-- The number of digits of the greatest line number, and zero for a pattern of one line. -/
def numberWidth (pattern : List Char) : Nat :=
  let count := (lines pattern).length + (if pattern.getLast? = some '\n' then 1 else 0)
  if count ≤ 1 then 0 else (toString count).length

/-- The pattern line by line, with carets under the lines that have spans of their own. -/
def notated (e : PatternError) (pattern : List Char) : String :=
  let width := numberWidth pattern
  let marked := e.spans.filter Span.isOneLine
  let line (text : List Char) (index : Nat) : String :=
    let number := toString (index + 1)
    let margin :=
      if width = 0 then "    "
      else String.ofList (List.replicate (width - number.length) ' ') ++ number ++ ": "
    let here := marked.filter fun s => s.first.line == index + 1
    margin ++ String.ofList text ++ "\n" ++
      (if here.isEmpty then ""
        else carets (if width = 0 then 4 else width + 2) here ++ "\n")
  String.join ((lines pattern).mapIdx fun index text => line text index)

def wideNotes (e : PatternError) : String :=
  let wide := e.spans.filter fun s => !s.isOneLine
  if wide.isEmpty then ""
  else "\n".intercalate (wide.map fun s =>
    "on line " ++ toString s.first.line ++ " (column " ++ toString s.first.column ++
      ") through line " ++ toString s.last.line ++ " (column " ++
      toString (s.last.column - 1) ++ ")") ++ "\n"

/-- The report on a faulty pattern: the pattern, marks under the fault, and what is wrong. -/
def report (e : PatternError) (pattern : String) : String :=
  let chars := pattern.toList
  let body :=
    if chars.contains '\n' then
      let rule := String.ofList (List.replicate 79 '~') ++ "\n"
      rule ++ e.notated chars ++ rule ++ e.wideNotes
    else e.notated chars
  "regex parse error:\n" ++ body ++ "error: " ++ e.fault.message

end PatternError

end FormatScan.Regex
