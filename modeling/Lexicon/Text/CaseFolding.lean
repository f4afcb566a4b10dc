import Lexicon.Text.Uppercase

/-! Letters that are the same but for their case, one character for one. -/

namespace Lexicon
namespace CaseFolding

/-- Letters with an uppercase form that do not count as the same as it: the dotless i, and those
whose uppercase form is younger than the other properties of characters that patterns know. -/
def apart : List (Nat × Nat) :=
  [(0x131, 0x131), (0xA7CF, 0xA7CF), (0xA7D3, 0xA7D3), (0xA7D5, 0xA7D5), (0x16EBB, 0x16ED3)]

/-- Letters that count as the same as another although that is not their uppercase form. -/
def extra : List Uppercase.Run :=
  [⟨0x3F4, 0x3F4, 1, -92⟩, ⟨0x1E9E, 0x1E9E, 1, -7615⟩, ⟨0x1F88, 0x1F8F, 1, -8⟩,
   ⟨0x1F98, 0x1F9F, 1, -8⟩, ⟨0x1FA8, 0x1FAF, 1, -8⟩, ⟨0x1FBC, 0x1FBC, 1, -9⟩,
   ⟨0x1FCC, 0x1FCC, 1, -9⟩, ⟨0x1FD3, 0x1FD3, 1, -7235⟩, ⟨0x1FE3, 0x1FE3, 1, -7219⟩,
   ⟨0x1FFC, 0x1FFC, 1, -9⟩, ⟨0x2126, 0x2126, 1, -7549⟩, ⟨0x212A, 0x212A, 1, -8415⟩,
   ⟨0x212B, 0x212B, 1, -8294⟩, ⟨0xFB05, 0xFB05, 1, 1⟩]

def runs : List Uppercase.Run := extra ++ Uppercase.runs

def isApart (n : Nat) : Bool := apart.any fun (a, b) => a ≤ n && n ≤ b

/-- The code point that stands for all that are the same as it but for their case. -/
def fold (n : Nat) : Nat :=
  if isApart n then n
  else match runs.find? (·.covers n) with
    | some r => ((n : Int) + r.shift).toNat
    | none => n

/-- The code points that a run takes to another. -/
def sources (n : Nat) : List Nat :=
  runs.filterMap fun r =>
    let m := ((n : Int) - r.shift).toNat
    if r.covers m && fold m = n then some m else none

end CaseFolding

/-- The characters that are the same as another but for their case, itself among them. -/
def caseVariants (c : Char) : List Char :=
  let n := CaseFolding.fold c.toNat
  (n :: CaseFolding.sources n).map Char.ofNat

/-- The letters of ASCII that are the same as a character but for their case, and itself. -/
def asciiCaseVariants (c : Char) : List Char := [c, c.toLower, c.toUpper]

end Lexicon
