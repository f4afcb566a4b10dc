import Lexicon.Text.CaseFolding
import Lexicon.Text.Property

/-! Sets of characters. -/

namespace Lexicon
namespace Pattern

inductive CharSet where
  | empty
  | range (first last : Char)
  | property (p : Property)
  | union (a b : CharSet)
  | inter (a b : CharSet)
  | compl (a : CharSet)
  /-- The characters that are in another set but for their case. -/
  | folded (a : CharSet)
  | asciiFolded (a : CharSet)
  deriving Repr, DecidableEq

namespace CharSet

def contains : CharSet → Char → Bool
  | empty, _ => false
  | range first last, c => first ≤ c && c ≤ last
  | property p, c => p.holds c
  | union a b, c => a.contains c || b.contains c
  | inter a b, c => a.contains c && b.contains c
  | compl a, c => !a.contains c
  | folded a, c => (caseVariants c).any a.contains
  | asciiFolded a, c => (asciiCaseVariants c).any a.contains

def single (c : Char) : CharSet := range c c

def ofRanges (ranges : List (Char × Char)) : CharSet :=
  ranges.foldr (fun (a, b) s => (range a b).union s) empty

def diff (a b : CharSet) : CharSet := a.inter b.compl

/-- The characters that are in exactly one of two sets. -/
def symmDiff (a b : CharSet) : CharSet := (a.diff b).union (b.diff a)

/-- Whether it can be seen that a set holds characters of ASCII only. -/
def isAscii : CharSet → Bool
  | empty => true
  | range _ last => last.toNat < 0x80
  | property p => p = .ascii
  | union a b => a.isAscii && b.isAscii
  | inter a b => a.isAscii || b.isAscii
  | compl _ => false
  | folded _ => false
  | asciiFolded a => a.isAscii

end CharSet
end Pattern
end Lexicon
