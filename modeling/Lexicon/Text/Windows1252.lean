import Lexicon.Text.Reader

/-! The encoding windows-1252, in which every byte is a character. -/

namespace Lexicon
namespace Windows1252

/-- The characters of 0x80 to 0x9F; every other byte is the code point of its own number. -/
def upper : List Char :=
  ['\u20AC', '\u0081', '\u201A', '\u0192', '\u201E', '\u2026', '\u2020', '\u2021',
   '\u02C6', '\u2030', '\u0160', '\u2039', '\u0152', '\u008D', '\u017D', '\u008F',
   '\u0090', '\u2018', '\u2019', '\u201C', '\u201D', '\u2022', '\u2013', '\u2014',
   '\u02DC', '\u2122', '\u0161', '\u203A', '\u0153', '\u009D', '\u017E', '\u0178']

def char (b : UInt8) : Char :=
  if 0x80 ≤ b && b < 0xA0 then upper.getD (b.toNat - 0x80) '\uFFFD' else Char.ofNat b.toNat

def byte? (c : Char) : Option UInt8 :=
  if c.toNat < 0x80 || (0xA0 ≤ c.toNat && c.toNat < 0x100) then some (UInt8.ofNat c.toNat)
  else (upper.idxOf? c).map fun i => UInt8.ofNat (0x80 + i)

def encode? (s : String) : Option Bytes := s.toList.mapM byte?

end Windows1252

/-- Every byte is one character, so no input is malformed. -/
def windows1252 : Reader :=
  ⟨fun b rest => (.scalar (Windows1252.char b), rest), fun _ _ => Nat.le_refl _⟩

end Lexicon
