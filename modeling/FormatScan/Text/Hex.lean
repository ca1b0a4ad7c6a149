import FormatScan.Text.Blank
/-!
Bytes written as hexadecimal digits, two for each byte, with white space allowed anywhere.
-/

namespace FormatScan.Text.Hex

inductive DecodeError where
  | oddLength
  /-- The first byte that is no digit, and its index in the text without white space. -/
  | invalidByte (byte : UInt8) (index : Nat)
deriving DecidableEq

def digitValue? (b : UInt8) : Option UInt8 :=
  if 48 ≤ b ∧ b ≤ 57 then some (b - 48)
  else if 65 ≤ b ∧ b ≤ 70 then some (b - 55)
  else if 97 ≤ b ∧ b ≤ 102 then some (b - 87)
  else none

def utf8 (chars : List Char) : List UInt8 :=
  chars.flatMap String.utf8EncodeChar

/-- Decodes digits two by two, from the index `index` on. -/
def decodePairs (index : Nat) : List UInt8 → Except DecodeError (List UInt8)
  | high :: low :: rest =>
    match digitValue? high, digitValue? low with
    | none, _ => .error (.invalidByte high index)
    | some _, none => .error (.invalidByte low (index + 1))
    | some high, some low => (decodePairs (index + 2) rest).map ((high * 16 + low) :: ·)
  | _ => .ok []

def compact (field : String) : List UInt8 :=
  utf8 (field.toList.filter fun c => !isBlank c)

def decode (field : String) : Except DecodeError (List UInt8) :=
  let digits := compact field
  if digits.length % 2 = 1 then .error .oddLength else decodePairs 0 digits

/-- Whether a text is made of pairs of digits and nothing else, and of one pair at least. -/
def isHex (field : String) : Bool :=
  let bytes := utf8 field.toList
  !bytes.isEmpty && bytes.length % 2 == 0 && bytes.all fun b => (digitValue? b).isSome

def lowerDigit (n : UInt8) : Char :=
  if n < 10 then Char.ofNat (48 + n.toNat) else Char.ofNat (87 + n.toNat)

def upperDigit (n : UInt8) : Char :=
  if n < 10 then Char.ofNat (48 + n.toNat) else Char.ofNat (55 + n.toNat)

def encode (bytes : List UInt8) : String :=
  String.ofList (bytes.flatMap fun b => [lowerDigit (b / 16), lowerDigit (b % 16)])

end FormatScan.Text.Hex
