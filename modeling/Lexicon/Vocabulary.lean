import Std.Data.ExtTreeSet

/-! Vocabularies: sets of terms. -/

namespace Lexicon

/-- A finite set of terms. Two sets with the same members are equal, and the members are listed in
ascending order of code points. -/
abbrev Vocabulary := Std.ExtTreeSet String

namespace Vocabulary

def ofTerms (terms : List String) : Vocabulary := terms.foldl (fun set term => set.insert term) ∅

/-- The set with a term added, and whether the term is new. -/
def add (set : Vocabulary) (term : String) : Bool × Vocabulary :=
  if term ∈ set then (false, set) else (true, set.insert term)

def extend (set : Vocabulary) (terms : List String) : Vocabulary :=
  terms.foldl (fun set term => set.insert term) set

end Vocabulary
end Lexicon
