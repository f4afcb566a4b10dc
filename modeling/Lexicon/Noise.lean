import Lexicon.Number.Binary64
import Lexicon.Vocabulary
import Lexicon.Text.Digit

/-! Terms that are mostly digits. -/

namespace Lexicon

/-- A term is noise for a share of digits above the one and a length above the other. -/
structure NoiseRule where
  ratioThreshold : Binary64 := .ofQuotient false 1 2
  lengthThreshold : Nat := 3

/-- The share of decimal digits among the characters of a term; the empty term has none. -/
def digitShare (term : String) : Option Binary64 :=
  let length := term.length
  if length = 0 then none
  else some (Binary64.ofNat (term.toList.countP isDecimalDigit) / Binary64.ofNat length)

inductive Verdict where
  | empty
  | numeric
  | retained
  deriving Repr, DecidableEq

namespace NoiseRule

/-- Whether the ratio threshold is a share, from none to all. -/
def isSound (f : NoiseRule) : Bool :=
  Binary64.le (.zero false) f.ratioThreshold && Binary64.le f.ratioThreshold (.ofNat 1)

def drops (f : NoiseRule) (term : String) : Bool :=
  match digitShare term with
  | none => true
  | some ratio => f.ratioThreshold.lt ratio && f.lengthThreshold < term.length

def verdict (f : NoiseRule) (term : String) : Verdict :=
  if term = "" then .empty
  else if f.drops term then .numeric
  else .retained

end NoiseRule

structure FilterCounts where
  empty : Nat := 0
  numeric : Nat := 0
  retained : Nat := 0
  deriving Repr, DecidableEq

/-- The terms filtered so far, those dropped as numeric in the order of their coming. -/
structure Filtered where
  terms : Vocabulary := ∅
  counts : FilterCounts := {}
  dropped : List String := []

namespace Filtered

def addTerm (f : NoiseRule) (s : Filtered) (term : String) : Filtered :=
  match f.verdict term with
  | .empty => { s with counts := { s.counts with empty := s.counts.empty + 1 } }
  | .numeric =>
    { s with
      counts := { s.counts with numeric := s.counts.numeric + 1 }
      dropped := term :: s.dropped }
  | .retained =>
    { s with
      counts := { s.counts with retained := s.counts.retained + 1 }
      terms := s.terms.insert term }

def ofTerms (f : NoiseRule) (terms : List String) : Filtered :=
  let s := terms.foldl (addTerm f) {}
  { s with dropped := s.dropped.reverse }

def ofVocabulary (f : NoiseRule) (terms : Vocabulary) : Filtered := ofTerms f terms.toList

end Filtered
end Lexicon
