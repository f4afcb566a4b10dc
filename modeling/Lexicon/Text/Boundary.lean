import Lexicon.Text.Blank
import Lexicon.Text.BinaryProperty
import Lexicon.Text.Script

/-! How characters bear on where graphemes, words and sentences end. -/

namespace Lexicon
namespace Boundary

open Alphabetic (isAmong)

def isOf (script : String) (c : Char) : Bool := (Script.named? script).any (·.holds c)

/-- Signs that stand before the digits that they span. -/
def isNumberSign (c : Char) : Bool := BinaryProperty.numberSigns.holds c

/-- What extends the character before it, marks with a width of their own included. -/
def extendsWord (c : Char) : Bool :=
  BinaryProperty.graphemeExtend.holds c || Category.isAny [.mc] c

def isNumber (c : Char) : Bool :=
  Category.isAny [.nd] c || c = '\u066b' || isNumberSign c && c ≠ '\u070f'

/-- The scripts of which words are not parted by blanks. -/
def unspaced : List String :=
  ["thai", "laoo", "mymr", "khmr", "talu", "tale", "lana", "tavt", "ahom"]

/-- Signs that are read as letters. -/
def letterSigns : List (Nat × Nat) :=
  [(0x2C2, 0x2C5), (0x2D2, 0x2D7), (0x2DE, 0x2DF), (0x2E5, 0x2EB), (0x2ED, 0x2ED), (0x2EF, 0x2FF),
   (0x55A, 0x55C), (0x55E, 0x55E), (0x58A, 0x58A), (0x5F3, 0x5F3), (0x70F, 0x70F),
   (0xA708, 0xA716), (0xA720, 0xA721), (0xA789, 0xA78A), (0xAB5B, 0xAB5B)]

def isHebrewLetter (c : Char) : Bool := isOf "hebr" c && Category.isAny [.lo] c

def isKatakana (c : Char) : Bool :=
  isOf "kana" c || isAmong [(0x3031, 0x3035), (0x309B, 0x309C), (0x30A0, 0x30A0),
    (0x30FC, 0x30FC), (0xFF70, 0xFF70)] c

end Boundary

open Alphabetic (isAmong)
open Boundary

inductive GraphemeBreak where
  | cr | lf | control | extend | joiner | regionalIndicator | prepend | spacingMark
  | leading | vowel | trailing | syllable | closedSyllable
  deriving Repr, DecidableEq

namespace GraphemeBreak

def named? : String → Option GraphemeBreak
  | "cr" => some cr
  | "lf" => some lf
  | "cn" | "control" => some control
  | "ex" | "extend" => some extend
  | "zwj" => some joiner
  | "ri" | "regionalindicator" => some regionalIndicator
  | "pp" | "prepend" => some prepend
  | "sm" | "spacingmark" => some spacingMark
  | "l" => some leading
  | "v" => some vowel
  | "t" => some trailing
  | "lv" => some syllable
  | "lvt" => some closedSyllable
  | _ => none

/-- The syllables of Hangul are ordered by their trailing consonants, of which there are 27. -/
def trailingOf (c : Char) : Option Nat :=
  if 0xAC00 ≤ c.toNat && c.toNat ≤ 0xD7A3 then some ((c.toNat - 0xAC00) % 28) else none

def holds (c : Char) : GraphemeBreak → Bool
  | cr => c = '\r'
  | lf => c = '\n'
  | control =>
    (Category.isAny [.zl, .zp, .cc, .cf] c
        || BinaryProperty.defaultIgnorable.holds c && Category.isAny [.cn] c)
      && !isAmong [(0xA, 0xA), (0xD, 0xD), (0x200C, 0x200D)] c
      && !isNumberSign c && !BinaryProperty.graphemeExtend.holds c
  | extend => BinaryProperty.graphemeExtend.holds c || BinaryProperty.emojiModifier.holds c
  | joiner => c = '\u200d'
  | regionalIndicator => isAmong [(0x1F1E6, 0x1F1FF)] c
  | prepend =>
    isNumberSign c || isAmong [(0xD4E, 0xD4E), (0x111C2, 0x111C3), (0x113D1, 0x113D1),
      (0x1193F, 0x1193F), (0x11941, 0x11941), (0x11A3A, 0x11A3A), (0x11A84, 0x11A89),
      (0x11D46, 0x11D46), (0x11F02, 0x11F02)] c
  | spacingMark =>
    (Category.isAny [.mc] c && !BinaryProperty.graphemeExtend.holds c
        || c = '\u0e33' || c = '\u0eb3')
      && !isAmong [(0x102B, 0x102C), (0x1038, 0x1038), (0x1062, 0x1064), (0x1067, 0x106D),
        (0x1083, 0x1083), (0x1087, 0x108C), (0x108F, 0x108F), (0x109A, 0x109C), (0x1A61, 0x1A61),
        (0x1A63, 0x1A64), (0xAA7B, 0xAA7B), (0xAA7D, 0xAA7D), (0x11720, 0x11721)] c
  | leading => isAmong [(0x1100, 0x115F), (0xA960, 0xA97C)] c
  | vowel => isAmong [(0x1160, 0x11A7), (0xD7B0, 0xD7C6), (0x16D63, 0x16D63), (0x16D67, 0x16D6A)] c
  | trailing => isAmong [(0x11A8, 0x11FF), (0xD7CB, 0xD7FB)] c
  | syllable => trailingOf c = some 0
  | closedSyllable => (trailingOf c).any (· ≠ 0)

end GraphemeBreak

inductive WordBreak where
  | cr | lf | newline | extend | joiner | regionalIndicator | format | katakana | hebrewLetter
  | letter | singleQuote | doubleQuote | midLetter | midNumber | midNumberLetter | numeric
  | extendNumberLetter | blank
  deriving Repr, DecidableEq

namespace WordBreak

def named? : String → Option WordBreak
  | "cr" => some cr
  | "lf" => some lf
  | "nl" | "newline" => some newline
  | "extend" => some extend
  | "zwj" => some joiner
  | "ri" | "regionalindicator" => some regionalIndicator
  | "fo" | "format" => some format
  | "ka" | "katakana" => some katakana
  | "hl" | "hebrewletter" => some hebrewLetter
  | "le" | "aletter" => some letter
  | "sq" | "singlequote" => some singleQuote
  | "dq" | "doublequote" => some doubleQuote
  | "ml" | "midletter" => some midLetter
  | "mn" | "midnum" => some midNumber
  | "mb" | "midnumlet" => some midNumberLetter
  | "nu" | "numeric" => some numeric
  | "ex" | "extendnumlet" => some extendNumberLetter
  | "wsegspace" => some blank
  | _ => none

def holds (c : Char) : WordBreak → Bool
  | cr => c = '\r'
  | lf => c = '\n'
  | newline => isAmong [(0xB, 0xC), (0x85, 0x85), (0x2028, 0x2029)] c
  | extend => extendsWord c || BinaryProperty.emojiModifier.holds c
  | joiner => c = '\u200d'
  | regionalIndicator => isAmong [(0x1F1E6, 0x1F1FF)] c
  | format =>
    Category.isAny [.cf] c && !isAmong [(0x200B, 0x200D)] c && !isNumberSign c
      && !BinaryProperty.graphemeExtend.holds c
  | katakana => isKatakana c
  | hebrewLetter => isHebrewLetter c
  | letter =>
    (isAlphabetic c || isAmong letterSigns c) && !BinaryProperty.ideographic.holds c
      && !isKatakana c && !unspaced.any (isOf · c) && !isOf "hira" c && !extendsWord c
      && !isHebrewLetter c
  | singleQuote => c = '\''
  | doubleQuote => c = '"'
  | midLetter =>
    isAmong [(0x3A, 0x3A), (0xB7, 0xB7), (0x387, 0x387), (0x55F, 0x55F), (0x5F4, 0x5F4),
      (0x2027, 0x2027), (0xFE13, 0xFE13), (0xFE55, 0xFE55), (0xFF1A, 0xFF1A)] c
  | midNumber =>
    isAmong [(0x2C, 0x2C), (0x3B, 0x3B), (0x37E, 0x37E), (0x589, 0x589), (0x60C, 0x60D),
      (0x66C, 0x66C), (0x7F8, 0x7F8), (0x2044, 0x2044), (0xFE10, 0xFE10), (0xFE14, 0xFE14),
      (0xFE50, 0xFE50), (0xFE54, 0xFE54), (0xFF0C, 0xFF0C), (0xFF1B, 0xFF1B)] c
  | midNumberLetter =>
    isAmong [(0x2E, 0x2E), (0x2018, 0x2019), (0x2024, 0x2024), (0xFE52, 0xFE52),
      (0xFF07, 0xFF07), (0xFF0E, 0xFF0E)] c
  | numeric => isNumber c
  | extendNumberLetter => Category.isAny [.pc] c || c = '\u202f'
  | blank =>
    Category.isAny [.zs] c && !isAmong [(0xA0, 0xA0), (0x2007, 0x2007), (0x202F, 0x202F)] c

end WordBreak

inductive SentenceBreak where
  | cr | lf | separator | extend | format | space | lower | upper | letter | numeric | stop
  | goesOn | terminal | close
  deriving Repr, DecidableEq

namespace SentenceBreak

def named? : String → Option SentenceBreak
  | "cr" => some cr
  | "lf" => some lf
  | "se" | "sep" => some separator
  | "ex" | "extend" => some extend
  | "fo" | "format" => some format
  | "sp" => some space
  | "lo" | "lower" => some lower
  | "up" | "upper" => some upper
  | "le" | "oletter" => some letter
  | "nu" | "numeric" => some numeric
  | "at" | "aterm" => some stop
  | "sc" | "scontinue" => some goesOn
  | "st" | "sterm" => some terminal
  | "cl" | "close" => some close
  | _ => none

def isExtend (c : Char) : Bool := extendsWord c || c = '\u200d'

/-- The Georgian letters have cases, but sentences do not start with capitals. -/
def isLower (c : Char) : Bool :=
  Alphabetic.isLower c && !BinaryProperty.graphemeExtend.holds c
    && !isAmong [(0x10D0, 0x10FA), (0x10FD, 0x10FF)] c

def isUpper (c : Char) : Bool :=
  (Alphabetic.isUpper c || Category.isAny [.lt] c) && !isAmong [(0x1C90, 0x1CBF)] c

def isStop (c : Char) : Bool :=
  isAmong [(0x2E, 0x2E), (0x2024, 0x2024), (0xFE52, 0xFE52), (0xFF0E, 0xFF0E)] c

def isTerminal (c : Char) : Bool := BinaryProperty.sentenceTerminal.holds c && !isStop c

def holds (c : Char) : SentenceBreak → Bool
  | cr => c = '\r'
  | lf => c = '\n'
  | separator => isAmong [(0x85, 0x85), (0x2028, 0x2029)] c
  | extend => isExtend c
  | format =>
    Category.isAny [.cf] c && !isAmong [(0x200C, 0x200D)] c && !isNumberSign c
      && !BinaryProperty.graphemeExtend.holds c
  | space =>
    isWhiteSpace c && !isAmong [(0xA, 0xA), (0xD, 0xD), (0x85, 0x85), (0x2028, 0x2029)] c
  | lower => isLower c
  | upper => isUpper c
  | letter =>
    (isAlphabetic c || c = '\u05f3' || c = '\u070f') && !isLower c && !isUpper c && !isExtend c
  | numeric => isNumber c || c = '\u066c'
  | stop => isStop c
  | goesOn =>
    isAmong [(0x2C, 0x2D), (0x3A, 0x3B), (0x37E, 0x37E), (0x55D, 0x55D), (0x60C, 0x60D),
      (0x7F8, 0x7F8), (0x1802, 0x1802), (0x1808, 0x1808), (0x2013, 0x2014), (0x3001, 0x3001),
      (0xFE10, 0xFE11), (0xFE13, 0xFE14), (0xFE31, 0xFE32), (0xFE50, 0xFE51), (0xFE54, 0xFE55),
      (0xFE58, 0xFE58), (0xFE63, 0xFE63), (0xFF0C, 0xFF0D), (0xFF1A, 0xFF1B), (0xFF64, 0xFF64)] c
  | terminal => isTerminal c
  | close =>
    (Category.isAny [.ps, .pe, .pi, .pf] c
        || isAmong [(0x22, 0x22), (0x27, 0x27), (0x275B, 0x2760), (0x2E00, 0x2E01),
          (0x2E06, 0x2E08), (0x2E0B, 0x2E0B), (0x1F676, 0x1F678)] c)
      && !isStop c && !isTerminal c

end SentenceBreak
end Lexicon
