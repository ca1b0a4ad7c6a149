import FormatScan.Unicode.Category
import FormatScan.Unicode.Property
import FormatScan.Unicode.Script
import FormatScan.Unicode.ValuedProperty
/-!
Sets of characters by the names of their properties.
-/

namespace FormatScan.Unicode

/-- Lower case, without separators, signs beyond ASCII and a leading "is". The short name `isc`
would lose its head that way and keeps it. -/
def normalizeName (name : String) : String :=
  let keep (chars : List Char) : List Char :=
    (chars.filter fun c => c.toNat < 128 && c != ' ' && c != '_' && c != '-').map Char.toLower
  match name.toList with
  | a :: b :: rest =>
    if a.toLower = 'i' && b.toLower = 's' then
      let body := keep rest
      if body = ['c'] then "isc" else String.ofList body
    else String.ofList (keep (a :: b :: rest))
  | chars => String.ofList (keep chars)

/-- Names of properties that are no sets of characters. -/
def otherPropertyNames : List String :=
  ["age", "bc", "bidiclass", "bidimirroringglyph", "bidipairedbracket",
   "bidipairedbrackettype", "blk", "block", "bmg", "bpb", "bpt", "canonicalcombiningclass",
   "casefolding", "ccc", "ce", "cf", "changeswhennfkccasefolded", "cjkaccountingnumeric",
   "cjkcompatibilityvariant", "cjkiicore", "cjkirggsource", "cjkirghsource",
   "cjkirgjsource", "cjkirgkpsource", "cjkirgksource", "cjkirgmsource", "cjkirgssource",
   "cjkirgtsource", "cjkirguksource", "cjkirgusource", "cjkirgvsource", "cjkothernumeric",
   "cjkprimarynumeric", "cjkrsunicode", "compex", "compositionexclusion", "cwkcf",
   "decompositionmapping", "decompositiontype", "dm", "dt", "ea", "eastasianwidth",
   "equideo", "equivalentunifiedideograph", "expandsonnfc", "expandsonnfd", "expandsonnfkc",
   "expandsonnfkd", "fcnfkc", "fcnfkcclosure", "fullcompositionexclusion", "gc", "gcb",
   "generalcategory", "graphemeclusterbreak", "hangulsyllabletype", "hst", "incb",
   "indicconjunctbreak", "indicpositionalcategory", "indicsyllabiccategory", "inpc", "insc",
   "isc", "jamoshortname", "jg", "joininggroup", "joiningtype", "jsn", "jt",
   "kaccountingnumeric", "kcompatibilityvariant", "kehcat", "kehdesc", "kehhg", "kehifao",
   "kehjsesh", "kehnomirror", "kehnorotate", "kiicore", "kirggsource", "kirghsource",
   "kirgjsource", "kirgkpsource", "kirgksource", "kirgmsource", "kirgssource",
   "kirgtsource", "kirguksource", "kirgusource", "kirgvsource", "kothernumeric",
   "kprimarynumeric", "krsunicode", "lb", "lc", "linebreak", "lowercasemapping", "na",
   "na1", "name", "namealias", "nfcqc", "nfcquickcheck", "nfdqc", "nfdquickcheck",
   "nfkccasefold", "nfkccf", "nfkcqc", "nfkcquickcheck", "nfkcscf", "nfkcsimplecasefold",
   "nfkdqc", "nfkdquickcheck", "nt", "numerictype", "numericvalue", "nv", "ocomment", "sb",
   "sc", "scf", "script", "scriptextensions", "scx", "sentencebreak", "sfc",
   "simplecasefolding", "simplelowercasemapping", "simpletitlecasemapping",
   "simpleuppercasemapping", "slc", "stc", "suc", "tc", "titlecasemapping", "uc",
   "unicode1name", "unicoderadicalstroke", "uppercasemapping", "urs", "verticalorientation",
   "vo", "wb", "wordbreak", "xonfc", "xonfd", "xonfkc", "xonfkd"]

inductive LookupError where
  | noProperty
  | noValue
deriving DecidableEq

def isPropertyName (name : String) : Bool :=
  (Property.ofName? name).isSome || otherPropertyNames.contains name

/-- The characters of a category, of a group of categories, or of one of the three great sets. -/
def categoryRanges? (name : String) : Option (Except LookupError Ranges) :=
  match name with
  | "any" => some (.ok [(0, Ranges.maxCodePoint)])
  | "ascii" => some (.ok [(0, 127)])
  | "assigned" => some (.ok (Category.ranges [.unassigned]).complement)
  | "cs" | "surrogate" => some (.error .noValue)
  | _ => (Category.ofName? name).map fun kinds => .ok (Category.ranges kinds)

def scriptRanges? (name : String) : Option (Except LookupError Ranges) :=
  match name with
  | "zzzz" | "unknown" | "hrkt" | "katakanaorhiragana" => some (.error .noValue)
  | _ => (Script.ofName? name).map fun script => .ok script.ranges

/-- The set that a single name stands for: a property goes before a category, and a category
before a script. Three names are short for a category and for a property without a set, and there
the category is meant. -/
def rangesOfName (name : String) : Except LookupError Ranges :=
  let name := normalizeName name
  if isPropertyName name && !(["cf", "sc", "lc"].contains name) then
    match Property.ofName? name with
    | some property => .ok property.ranges
    | none => .error .noProperty
  else
    match categoryRanges? name with
    | some answer => answer
    | none => (scriptRanges? name).getD (.error .noProperty)

def rangesOfValue (name value : String) : Except LookupError Ranges :=
  let name := normalizeName name
  let value := normalizeName value
  if !isPropertyName name then .error .noProperty
  else
    match name with
    | "gc" | "generalcategory" => (categoryRanges? value).getD (.error .noValue)
    | "sc" | "script" => (scriptRanges? value).getD (.error .noValue)
    | "scx" | "scriptextensions" =>
      match scriptRanges? value with
      | some (.ok _) =>
        match Script.ofName? value with
        | some script => .ok script.extensionRanges
        | none => .error .noValue
      | _ => .error .noValue
    | "age" => ofOption (ValuedProperty.age.rangesUpTo? value)
    | "gcb" | "graphemeclusterbreak" => ofOption (ValuedProperty.graphemeBreak.rangesOf? value)
    | "wb" | "wordbreak" => ofOption (ValuedProperty.wordBreak.rangesOf? value)
    | "sb" | "sentencebreak" => ofOption (ValuedProperty.sentenceBreak.rangesOf? value)
    | _ => .error .noValue
where
  ofOption (ranges : Option Ranges) : Except LookupError Ranges :=
    match ranges with
    | some ranges => .ok ranges
    | none => .error .noValue

/-- The characters of words: letters, marks, digits, connectors and join controls. -/
def wordRanges : Ranges :=
  (Property.alphabetic.ranges.union
    (Category.ranges [.spacingMark, .enclosingMark, .nonspacingMark, .decimalNumber,
      .connectorPunctuation])).union Property.joinControl.ranges

def digitRanges (_ : Unit) : Ranges := Category.ranges [.decimalNumber]

def spaceRanges (_ : Unit) : Ranges := Property.whiteSpace.ranges

end FormatScan.Unicode
