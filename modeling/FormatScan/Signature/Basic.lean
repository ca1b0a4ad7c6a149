/-!
Signatures: what is known about a file format. A field that is an empty text is not set.
-/

namespace FormatScan

inductive SignatureKind where
  /-- Bytes in hexadecimal, and possibly a marker. -/
  | binary
  /-- A pattern that takes no notice of case. -/
  | text
deriving DecidableEq

def SignatureKind.name : SignatureKind → String
  | binary => "binary"
  | text => "text"

structure Signature where
  name : String
  kind : SignatureKind := .binary
  /-- The bytes at the beginning, in hexadecimal. -/
  head : String := ""
  /-- The bytes at the end, in hexadecimal. -/
  tail : String := ""
  pattern : String := ""
  extensions : List String := []
  /-- The format that every file of this format counts as, too. -/
  deductFrom : Option String := none
  priority : Int32 := 0
  minFileSize : UInt64 := 0
  exclusiveWith : List String := []
deriving DecidableEq

namespace Signature

def binary (name head : String) : Signature := { name, kind := .binary, head }

def text (name pattern : String) : Signature := { name, kind := .text, pattern }

/-- Declares that a file cannot be of both formats. -/
def exclude (s : Signature) (other : String) : Signature :=
  { s with exclusiveWith := s.exclusiveWith ++ [other] }

/-- Whether no field is set that a pattern could come from. -/
def isEmpty (s : Signature) : Bool := s.head == "" && s.tail == "" && s.pattern == ""

end Signature

end FormatScan
