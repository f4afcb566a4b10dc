import Lexicon.Text.Age
import Lexicon.Text.Boundary
import Lexicon.Text.Digit
import Lexicon.Text.ScriptUse

/-! Properties of characters by their names. -/

namespace Lexicon

inductive Property where
  | any
  | ascii
  | word
  | digit
  | space
  | alphabetic
  | lowercase
  | uppercase
  | binary (name : String)
  | category (ks : List Category)
  | script (name : String)
  | scriptUse (name : String)
  | age (version : Nat)
  | graphemeBreak (kind : GraphemeBreak)
  | wordBreak (kind : WordBreak)
  | sentenceBreak (kind : SentenceBreak)
  deriving Repr, DecidableEq

namespace Property

def holds (c : Char) : Property → Bool
  | any => true
  | ascii => c.toNat < 0x80
  | word => isWordCharacter c
  | digit => isDecimalDigit c
  | space => isWhiteSpace c
  | alphabetic => isAlphabetic c
  | lowercase => Alphabetic.isLower c
  | uppercase => Alphabetic.isUpper c
  | binary name => (BinaryProperty.named? name).any (·.holds c)
  | category ks => Category.isAny ks c
  | script name => (Script.named? name).any (·.holds c)
  | scriptUse name => (Script.named? name).any (·.uses c)
  | age version => Age.reaches version c
  | graphemeBreak kind => kind.holds c
  | wordBreak kind => kind.holds c
  | sentenceBreak kind => kind.holds c

/-- How a name is compared: in small letters, without blanks, hyphens and underscores, without
characters other than those of ASCII, and without `is` at its head. -/
def plainName (name : String) : String :=
  let marked := ((name.toList.take 2).map Char.toLower) = ['i', 's']
  let kept := (if marked then name.toList.drop 2 else name.toList).filter fun c =>
    c.toNat < 0x80 && c ≠ ' ' && c ≠ '_' && c ≠ '-'
  let plain := String.ofList (kept.map Char.toLower)
  if marked && plain = "c" then "isc" else plain

/-- The properties that say nothing but yes or no. -/
def binary? : String → Option Property
  | "alphabetic" | "alpha" => some alphabetic
  | "lowercase" | "lower" => some lowercase
  | "uppercase" | "upper" => some uppercase
  | "whitespace" | "wspace" | "space" => some space
  | name => (BinaryProperty.named? name).map fun _ => binary name

/-- Names of properties that have other values than yes and no, or none for all characters. -/
def otherNames : List String :=
  ["bc", "bidiclass", "blk", "block", "bmg", "bidimirroringglyph", "bpb", "bidipairedbracket",
   "bpt", "bidipairedbrackettype", "ccc", "canonicalcombiningclass", "ce", "compositionexclusion",
   "cf", "casefolding", "cjkaccountingnumeric", "kaccountingnumeric", "cjkcompatibilityvariant",
   "kcompatibilityvariant", "cjkiicore", "kiicore", "cjkirggsource", "kirggsource",
   "cjkirghsource", "kirghsource", "cjkirgjsource", "kirgjsource", "cjkirgkpsource",
   "kirgkpsource", "cjkirgksource", "kirgksource", "cjkirgmsource", "kirgmsource", "cjkirgssource",
   "kirgssource", "cjkirgtsource", "kirgtsource", "cjkirguksource", "kirguksource",
   "cjkirgusource", "kirgusource", "cjkirgvsource", "kirgvsource", "cjkothernumeric",
   "kothernumeric", "cjkprimarynumeric", "kprimarynumeric", "cjkrsunicode", "krsunicode",
   "unicoderadicalstroke", "urs", "compex", "fullcompositionexclusion", "cwkcf",
   "changeswhennfkccasefolded", "dm", "decompositionmapping", "dt", "decompositiontype", "ea",
   "eastasianwidth", "equideo", "equivalentunifiedideograph", "fcnfkc", "fcnfkcclosure", "hst",
   "hangulsyllabletype", "incb", "indicconjunctbreak", "inpc", "indicpositionalcategory", "insc",
   "indicsyllabiccategory", "isc", "isocomment", "jg", "joininggroup", "jsn", "jamoshortname",
   "jt", "joiningtype", "lb", "linebreak", "lc", "lowercasemapping", "na", "name", "na1",
   "unicode1name", "namealias", "nfcqc", "nfcquickcheck", "nfdqc", "nfdquickcheck", "nfkccf",
   "nfkccasefold", "nfkcqc", "nfkcquickcheck", "nfkcscf", "nfkcsimplecasefold", "nfkdqc",
   "nfkdquickcheck", "nt", "numerictype", "nv", "numericvalue", "scf", "sfc", "simplecasefolding",
   "slc", "simplelowercasemapping", "stc", "simpletitlecasemapping", "suc",
   "simpleuppercasemapping", "tc", "titlecasemapping", "uc", "uppercasemapping", "vo",
   "verticalorientation", "xonfc", "expandsonnfc", "xonfd", "expandsonnfd", "xonfkc",
   "expandsonnfkc", "xonfkd", "expandsonnfkd"]

/-- The general categories, single ones and groups of them, by their names. -/
def categoryNames : List (List String × List Category) :=
  [(["c", "other"], [.cc, .cf, .cn, .co]), (["cc", "control", "cntrl"], [.cc]),
   (["cf", "format"], [.cf]), (["cn", "unassigned"], [.cn]), (["co", "privateuse"], [.co]),
   (["l", "letter"], [.ll, .lm, .lo, .lt, .lu]), (["lc", "casedletter"], [.ll, .lt, .lu]),
   (["ll", "lowercaseletter"], [.ll]), (["lm", "modifierletter"], [.lm]),
   (["lo", "otherletter"], [.lo]), (["lt", "titlecaseletter"], [.lt]),
   (["lu", "uppercaseletter"], [.lu]), (["m", "mark", "combiningmark"], [.mc, .me, .mn]),
   (["mc", "spacingmark"], [.mc]), (["me", "enclosingmark"], [.me]),
   (["mn", "nonspacingmark"], [.mn]), (["n", "number"], [.nd, .nl, .no]),
   (["nd", "decimalnumber", "digit"], [.nd]), (["nl", "letternumber"], [.nl]),
   (["no", "othernumber"], [.no]),
   (["p", "punctuation", "punct"], [.pc, .pd, .pe, .pf, .pi, .po, .ps]),
   (["pc", "connectorpunctuation"], [.pc]), (["pd", "dashpunctuation"], [.pd]),
   (["pe", "closepunctuation"], [.pe]), (["pf", "finalpunctuation"], [.pf]),
   (["pi", "initialpunctuation"], [.pi]), (["po", "otherpunctuation"], [.po]),
   (["ps", "openpunctuation"], [.ps]), (["s", "symbol"], [.sc, .sk, .sm, .so]),
   (["sc", "currencysymbol"], [.sc]), (["sk", "modifiersymbol"], [.sk]),
   (["sm", "mathsymbol"], [.sm]), (["so", "othersymbol"], [.so]),
   (["z", "separator"], [.zl, .zp, .zs]), (["zl", "lineseparator"], [.zl]),
   (["zp", "paragraphseparator"], [.zp]), (["zs", "spaceseparator"], [.zs])]

def category? : String → Option Property
  | "any" => some any
  | "ascii" => some ascii
  | "assigned" => some (category Category.assigned)
  | name => (categoryNames.find? (·.1.contains name)).map fun row => category row.2

def script? (name : String) : Option Property := (Script.named? name).map fun _ => script name

/-- Names of values of which no character is known. -/
def isEmptyValue (name : String) : Bool :=
  ["cs", "surrogate", "hrkt", "katakanaorhiragana", "zzzz", "unknown"].contains name

inductive Unknown where
  | property
  | value
  deriving Repr, DecidableEq

def named (name : String) : Except Unknown Property :=
  let plain := plainName name
  match binary? plain <|> category? plain <|> script? plain with
  | some p => .ok p
  | none => .error (if isEmptyValue plain then .value else .property)

/-- The property that says that another has some value. -/
def valued (name value : String) : Except Unknown Property :=
  let found : Option Property → Except Unknown Property
    | some p => .ok p
    | none => .error .value
  match plainName name with
  | "gc" | "generalcategory" => found (category? (plainName value))
  | "sc" | "script" => found (script? (plainName value))
  | "scx" | "scriptextensions" =>
    found ((Script.named? (plainName value)).map fun _ => scriptUse (plainName value))
  | "age" => found ((Age.named? (plainName value)).map age)
  | "gcb" | "graphemeclusterbreak" =>
    found ((GraphemeBreak.named? (plainName value)).map graphemeBreak)
  | "wb" | "wordbreak" => found ((WordBreak.named? (plainName value)).map wordBreak)
  | "sb" | "sentencebreak" => found ((SentenceBreak.named? (plainName value)).map sentenceBreak)
  | plain =>
    .error (if (binary? plain).isSome || otherNames.contains plain then .value else .property)

end Property
end Lexicon
