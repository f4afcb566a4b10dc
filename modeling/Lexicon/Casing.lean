import Lexicon.Vocabulary
import Lexicon.Text.Uppercase

/-! Terms parted into those that uppercasing changes and those that it does not. -/

namespace Lexicon

/-- Whether uppercasing leaves a term as it is. -/
def isUppercase (term : String) : Bool := toUppercase term == term

/-- How a term is written: in capitals throughout, as constants are, or with lowercase in it, as
variables and functions are. -/
inductive Casing where
  | lower
  | upper
  deriving Repr, DecidableEq

def Casing.ofTerm (term : String) : Casing := if isUppercase term then upper else lower

structure ByCasing where
  lower : Vocabulary := ∅
  upper : Vocabulary := ∅

namespace ByCasing

def get (c : ByCasing) : Casing → Vocabulary
  | .lower => c.lower
  | .upper => c.upper

def size (c : ByCasing) : Nat := c.lower.size + c.upper.size

def isEmpty (c : ByCasing) : Bool := c.lower.isEmpty && c.upper.isEmpty

def addTerm (c : ByCasing) (term : String) : ByCasing :=
  match Casing.ofTerm term with
  | .lower => { c with lower := c.lower.insert term }
  | .upper => { c with upper := c.upper.insert term }

def ofTerms (terms : List String) : ByCasing := terms.foldl addTerm {}

def ofVocabulary (terms : Vocabulary) : ByCasing := ofTerms terms.toList

end ByCasing
end Lexicon
