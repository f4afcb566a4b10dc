import Lexicon.Text.GraphemeExtend
import Lexicon.Text.Printable
import Lexicon.Text.Utf8

/-! Texts in quotation marks, with escapes for what would not be seen. -/

namespace Lexicon
namespace Quoted

def hexEscape (c : Char) : List Char :=
  ['\\', 'u', '\x7b'] ++ Nat.toDigits 16 c.toNat ++ ['\x7d']

/-- A character between quotation marks: what would be misread or not be seen is escaped. -/
def escape (mark : Char) (c : Char) : List Char :=
  if c = '\x00' then ['\\', '0']
  else if c = '\t' then ['\\', 't']
  else if c = '\r' then ['\\', 'r']
  else if c = '\n' then ['\\', 'n']
  else if c = '\\' || c = mark then ['\\', c]
  else if isGraphemeExtend c || !isPrintable c then hexEscape c
  else [c]

/-- A byte that belongs to no character. -/
def byteEscape (b : UInt8) : List Char :=
  let digits := Nat.toDigits 16 (b.toNat / 16) ++ Nat.toDigits 16 (b.toNat % 16)
  '\\' :: 'x' :: digits.map Char.toUpper

def item (mark : Char) : Item → List Char
  | .scalar c => escape mark c
  | .malformed bs => bs.flatMap byteEscape

end Quoted

def quotedChar (c : Char) : String := String.ofList ('\'' :: Quoted.escape '\'' c ++ ['\''])

def quoted (s : String) : String :=
  String.ofList ('"' :: s.toList.flatMap (Quoted.escape '"') ++ ['"'])

/-- Bytes in double quotation marks, as the text they mostly are. -/
def quotedBytes (bs : Bytes) : String :=
  String.ofList ('"' :: (utf8.scan bs).flatMap (Quoted.item '"') ++ ['"'])

end Lexicon
