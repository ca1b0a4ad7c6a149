import FormatScan.Regex.Expr
import FormatScan.Regex.Parser
import FormatScan.Unicode.Fold
import FormatScan.Unicode.Lookup
/-!
From the structure of a pattern to what it asks of bytes, under modes that flags turn on and off.
-/

namespace FormatScan.Regex

structure Modes where
  caseless : Bool := false
  multiLine : Bool := false
  dotAll : Bool := false
  unicode : Bool := true
  carriageReturn : Bool := false
  swapGreed : Bool := false
  /-- Whether nothing but text in UTF-8 may be asked for. No flag changes it. -/
  textOnly : Bool := false
deriving DecidableEq

namespace Modes

/-- Bytes count one by one and a dot stands for any of them. -/
def start (caseless : Bool) : Modes := { caseless, dotAll := true, unicode := false }

def text : Modes := { textOnly := true }

def apply (m : Modes) (items : List FlagItem) : Modes :=
  { caseless := (flagState .caseInsensitive items).getD m.caseless
    multiLine := (flagState .multiLine items).getD m.multiLine
    dotAll := (flagState .dotMatchesNewline items).getD m.dotAll
    unicode := (flagState .unicode items).getD m.unicode
    carriageReturn := (flagState .carriageReturn items).getD m.carriageReturn
    swapGreed := (flagState .swapGreed items).getD m.swapGreed }

/-- Refuses bytes that are no text where nothing but text may be asked for. -/
def checkText (m : Modes) (span : Span) (set : ByteSet) : Parsed ByteSet :=
  if m.textOnly && !set.isAscii then fail .notText span else .ok set

end Modes

def PerlKind.bytes : PerlKind → ByteSet
  | digit => .ofRanges [(48, 57)]
  | space => .ofRanges [(9, 13), (32, 32)]
  | word => .ofRanges [(48, 57), (65, 90), (95, 95), (97, 122)]

def PerlKind.ranges : PerlKind → Unicode.Ranges
  | digit => Unicode.digitRanges ()
  | space => Unicode.spaceRanges ()
  | word => Unicode.wordRanges

def AsciiKind.ranges : AsciiKind → Unicode.Ranges
  | alnum => [(48, 57), (65, 90), (97, 122)]
  | alpha => [(65, 90), (97, 122)]
  | ascii => [(0, 127)]
  | blank => [(9, 9), (32, 32)]
  | cntrl => [(0, 31), (127, 127)]
  | digit => [(48, 57)]
  | graph => [(33, 126)]
  | lower => [(97, 122)]
  | print => [(32, 126)]
  | punct => [(33, 47), (58, 64), (91, 96), (123, 126)]
  | space => [(9, 13), (32, 32)]
  | upper => [(65, 90)]
  | word => [(48, 57), (65, 90), (95, 95), (97, 122)]
  | xdigit => [(48, 57), (65, 70), (97, 102)]

/-- The byte of a literal in a class of bytes: one that is written as a byte, or one of ASCII. -/
def Literal.classByte (l : Literal) : Parsed Nat :=
  match l.byte? with
  | some n => .ok n
  | none => if l.char.toNat < 128 then .ok l.char.toNat else fail .unicodeNotAllowed l.span

def closeBytes (caseless negated : Bool) (s : ByteSet) : ByteSet :=
  let s := if caseless then s.foldCase else s
  if negated then s.complement else s

def closeRanges (caseless negated : Bool) (s : Unicode.Ranges) : Unicode.Ranges :=
  let s := if caseless then s.foldCase else s
  if negated then s.complement else s

def SetOp.applyBytes : SetOp → ByteSet → ByteSet → ByteSet
  | intersection => ByteSet.intersection
  | difference => ByteSet.difference
  | symmetricDifference => ByteSet.symmetricDifference

def SetOp.applyRanges : SetOp → Unicode.Ranges → Unicode.Ranges → Unicode.Ranges
  | intersection => Unicode.Ranges.intersection
  | difference => Unicode.Ranges.difference
  | symmetricDifference => Unicode.Ranges.symmetricDifference

def PropertyQuery.ranges : PropertyQuery → Except Unicode.LookupError Unicode.Ranges
  | named name => Unicode.rangesOfName name
  | valued name value => Unicode.rangesOfValue name value

def PropertyClass.ranges (m : Modes) (cls : PropertyClass) : Parsed Unicode.Ranges :=
  if !m.unicode then fail .unicodeNotAllowed cls.span
  else
    match cls.query.ranges with
    | .ok ranges => .ok (closeRanges m.caseless cls.negated ranges)
    | .error .noProperty => fail .propertyNotFound cls.span
    | .error .noValue => fail .propertyValueNotFound cls.span

mutual

def ClassSet.bytes (m : Modes) : ClassSet → Parsed ByteSet
  | .empty _ => .ok .empty
  | .literal l => do return .single (← l.classByte)
  | .range _ low high => do return .range (← low.classByte) (← high.classByte)
  | .ascii span negated kind =>
    m.checkText span (closeBytes m.caseless negated (.ofRanges kind.ranges))
  | .property cls => fail .unicodeNotAllowed cls.span
  | .perl cls => m.checkText cls.span (closeBytes false cls.negated cls.kind.bytes)
  | .bracketed span negated body => do
    m.checkText span (closeBytes m.caseless negated (← body.bytes m))
  | .union _ items => ClassSet.bytesOfAll m items
  | .op _ kind left right => do
    let left ← left.bytes m
    let right ← right.bytes m
    return kind.applyBytes (closeBytes m.caseless false left) (closeBytes m.caseless false right)

def ClassSet.bytesOfAll (m : Modes) : List ClassSet → Parsed ByteSet
  | [] => .ok .empty
  | item :: rest => do
    let first ← item.bytes m
    return first.union (← ClassSet.bytesOfAll m rest)

end

mutual

def ClassSet.addRanges (m : Modes) (there : Unicode.Ranges) : ClassSet → Parsed Unicode.Ranges
  | .empty _ => .ok there
  | .literal l => .ok (there.insert (l.char.toNat, l.char.toNat))
  | .range _ low high => .ok (there.insert (low.char.toNat, high.char.toNat))
  | .ascii _ negated kind => .ok (there.union (closeRanges m.caseless negated kind.ranges))
  | .property cls => do return there.union (← cls.ranges m)
  | .perl cls => .ok (there.union (closeRanges false cls.negated cls.kind.ranges))
  | .bracketed _ negated body => do
    return there.union (closeRanges m.caseless negated (← body.addRanges m []))
  | .union _ items => ClassSet.addAllRanges m there items
  | .op _ kind left right => do
    let left ← left.addRanges m []
    let right ← right.addRanges m []
    return there.union (kind.applyRanges (closeRanges m.caseless false left)
      (closeRanges m.caseless false right))

def ClassSet.addAllRanges (m : Modes) (there : Unicode.Ranges) :
    List ClassSet → Parsed Unicode.Ranges
  | [] => .ok there
  | item :: rest => do ClassSet.addAllRanges m (← item.addRanges m there) rest

end

def ClassSet.ranges (m : Modes) (set : ClassSet) : Parsed Unicode.Ranges := set.addRanges m []

def Literal.toExpr (m : Modes) (l : Literal) : Parsed Expr :=
  match if m.unicode then none else l.byte? with
  | some n => do
    return .byte (← m.checkText l.span (closeBytes (m.caseless && n < 128) false (.single n)))
  | none =>
    if m.caseless && m.unicode && Unicode.hasOtherCase l.char then
      .ok (.scalar (Unicode.Ranges.foldCase [(l.char.toNat, l.char.toNat)]))
    else if l.char.toNat < 128 then
      .ok (.byte (closeBytes (m.caseless && !m.unicode) false (.single l.char.toNat)))
    else .ok (.bytes (String.utf8EncodeChar l.char))

def Modes.dot (m : Modes) (span : Span) : Parsed Expr :=
  let except : List (Nat × Nat) :=
    if m.dotAll then []
    else if m.carriageReturn then [(10, 10), (13, 13)]
    else [(10, 10)]
  if m.unicode then .ok (.scalar (Unicode.Ranges.complement except))
  else do return .byte (← m.checkText span (ByteSet.ofRanges except).complement)

def Assertion.look (m : Modes) : Assertion → Look
  | startLine =>
    if !m.multiLine then .textStart else if m.carriageReturn then .crlfStart else .lineStart
  | endLine =>
    if !m.multiLine then .textEnd else if m.carriageReturn then .crlfEnd else .lineEnd
  | startText => .textStart
  | endText => .textEnd
  | wordBoundary => .word m.unicode .boundary
  | notWordBoundary => .word m.unicode .inside
  | wordStart => .word m.unicode .start
  | wordEnd => .word m.unicode .stop
  | wordStartHalf => .word m.unicode .startHalf
  | wordEndHalf => .word m.unicode .stopHalf

mutual

/-- What a part asks of bytes, and the modes of the parts behind it. Flags that a group sets hold
up to the end of the group. -/
def Ast.toExpr (m : Modes) : Ast → Parsed (Expr × Modes)
  | .empty _ => .ok (.empty, m)
  | .flags _ items => .ok (.empty, m.apply items)
  | .literal l => do return (← l.toExpr m, m)
  | .dot span => do return (← m.dot span, m)
  | .assertion _ kind => .ok (.look (kind.look m), m)
  | .property cls => do return (.scalar (← cls.ranges m), m)
  | .perl cls =>
    if m.unicode then .ok (.scalar (closeRanges false cls.negated cls.kind.ranges), m)
    else do
      return (.byte (← m.checkText cls.span (closeBytes false cls.negated cls.kind.bytes)), m)
  | .bracketed span negated body => do
    if m.unicode then return (.scalar (closeRanges m.caseless negated (← body.ranges m)), m)
    else
      let set := closeBytes m.caseless negated (← body.bytes m)
      return (.byte (← m.checkText span set), m)
  | .repetition _ min max greedy body => do
    let (e, after) ← body.toExpr m
    return (.repeated min max (greedy != m.swapGreed) e, after)
  | .capture span body => do
    let (e, _) ← body.toExpr m
    return (.group (some span.first.offset) e, m)
  | .group _ items body => do
    let (e, _) ← body.toExpr (m.apply items)
    return (.group none e, m)
  | .alternation _ branches => do
    let (es, m) ← Ast.toExprs m branches
    return (.alts es, m)
  | .concat _ parts => do
    let (es, m) ← Ast.toExprs m parts
    return (.seqs es, m)

def Ast.toExprs (m : Modes) : List Ast → Parsed (List Expr × Modes)
  | [] => .ok ([], m)
  | part :: rest => do
    let (e, m) ← part.toExpr m
    let (es, m) ← Ast.toExprs m rest
    return (e :: es, m)

end

def Expr.ofPattern (modes : Modes) (pattern : String) : Parsed Expr := do
  let ast ← Ast.ofPattern pattern
  let (e, _) ← ast.toExpr modes
  return e

end FormatScan.Regex
