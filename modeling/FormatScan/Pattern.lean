import FormatScan.Event
import FormatScan.Signature.Sanitize
/-!
Patterns: regular expressions over bytes that tell the files of a format. Exact bytes are written
as escapes in hexadecimal; what case means and what a dot stands for is up to the engines.
-/

namespace FormatScan

inductive Anchoring where
  | start
  /-- Anywhere, as in a stream where files do not begin at the first byte. -/
  | unanchored
deriving DecidableEq

def Anchoring.name : Anchoring → String
  | start => "start"
  | unanchored => "unanchored"

def Anchoring.known : List (String × Anchoring) :=
  [("start", .start), ("unanchored", .unanchored)]

structure Pattern where
  name : String
  expression : String
  caseless : Bool
  priority : Int32
  minFileSize : UInt64
deriving DecidableEq

namespace Pattern

def appliesTo (p : Pattern) (size : Nat) : Bool := p.minFileSize.toNat ≤ size

/-- The order in which patterns are tried: by priority from the greatest on. Patterns of one
priority keep their order. -/
def inScanOrder (patterns : List Pattern) : List Pattern :=
  patterns.mergeSort fun a b => b.priority ≤ a.priority

end Pattern

def escapeByte (b : UInt8) : List Char :=
  ['\\', 'x', Text.Hex.upperDigit (b / 16), Text.Hex.upperDigit (b % 16)]

def escapeBytes (bytes : List UInt8) : String := String.ofList (bytes.flatMap escapeByte)

namespace Signature

def nonEmpty? (field : String) : Option String := if field = "" then none else some field

/-- The expression for a field in hexadecimal, unless the field is empty or cannot be decoded. -/
def hexExpression? (field : String) : Option String :=
  match Text.Hex.decode field with
  | .ok [] => none
  | .ok bytes => some (escapeBytes bytes)
  | .error _ => none

def ignoredHexEvents (name label field : String) : List Event :=
  match Text.Hex.decode field with
  | .ok _ => []
  | .error e => [.signatureWarning name ("ignoring invalid " ++ label ++ ": " ++ e.message)]

/-- The marker is in hexadecimal if it looks like it, and an expression otherwise. -/
def markerExpression? (s : Signature) : Option String :=
  if Text.Hex.isHex s.pattern then hexExpression? s.pattern else nonEmpty? s.pattern

def anchor : Anchoring → String
  | .start => "^"
  | .unanchored => ""

/-- The bytes at the beginning and anywhere behind them those at the end or else the marker; the
marker or else the bytes at the end if there are none at the beginning. -/
def binaryExpression? (anchoring : Anchoring) (s : Signature) : Option String :=
  let tail := hexExpression? s.tail
  let marker := s.markerExpression?
  match hexExpression? s.head with
  | none => marker <|> tail
  | some head =>
    match tail <|> marker with
    | some rest => some (anchor anchoring ++ head ++ ".*?" ++ rest)
    | none => some (anchor anchoring ++ head)

def expression? (anchoring : Anchoring) (s : Signature) : Option String :=
  match s.kind with
  | .text => nonEmpty? s.pattern
  | .binary => s.binaryExpression? anchoring

/-- Warnings about fields that cannot be decoded and therefore count as not set. -/
def ignoredEvents (s : Signature) : List Event :=
  match s.kind with
  | .text => []
  | .binary =>
    ignoredHexEvents s.name "hex_head" s.head ++ ignoredHexEvents s.name "hex_tail" s.tail ++
      (if Text.Hex.isHex s.pattern then ignoredHexEvents s.name "pattern" s.pattern else [])

def compile? (anchoring : Anchoring) (s : Signature) : Option Pattern :=
  (s.expression? anchoring).map fun expression =>
    { name := s.name, expression, caseless := s.kind == .text, priority := s.priority,
      minFileSize := s.minFileSize }

def compileEvents (anchoring : Anchoring) (s : Signature) : List Event :=
  s.ignoredEvents ++
    (if (s.compile? anchoring).isNone then
      [.signatureWarning s.name "no usable pattern, excluded from scanning"] else [])

def compileAll (anchoring : Anchoring) (signatures : List Signature) :
    List Pattern × List Event :=
  (Pattern.inScanOrder (signatures.filterMap (compile? anchoring)),
    signatures.flatMap (compileEvents anchoring))

end Signature

end FormatScan
