import Lexicon.Casing
import Lexicon.Noise
import Lexicon.Term

/-! Histories of a vocabulary. -/

namespace Lexicon

inductive Vocabulary.Operation where
  | insert (term : String)
  | contains (term : String)
  | extend (terms : List String)
  | list
  | rebuild
  | tokenize (delimiter : Char) (records : List String)
  | filter (noise : NoiseRule)
  | keep (casing : Casing)

inductive Vocabulary.Answer where
  | done
  | truth (value : Bool)
  | terms (members : List String)
  deriving Repr, DecidableEq

namespace Vocabulary.Operation

def apply (set : Vocabulary) : Operation → Vocabulary × Answer
  | insert term => ((set.add term).2, .truth (set.add term).1)
  | contains term => (set, .truth (set.contains term))
  | extend terms => (set.extend terms, .done)
  | list => (set, .terms set.toList)
  | rebuild => (.ofTerms set.toList, .done)
  | tokenize delimiter records => ((Lexicon.tokenize delimiter records).terms, .done)
  | filter noise => ((Filtered.ofVocabulary noise set).terms, .done)
  | keep casing => ((ByCasing.ofVocabulary set).get casing, .done)

/-- Applies operations one after the other, and lists each answer with the set after it. -/
def applyAll (set : Vocabulary) : List Operation → List (Vocabulary × Answer)
  | [] => []
  | operation :: rest => apply set operation :: applyAll (apply set operation).1 rest

end Vocabulary.Operation
end Lexicon
