import Lexicon.Vocabulary

/-! The terms of records. -/

namespace Lexicon

/-- The pieces of a record between its delimiters; neighbouring delimiters have an empty piece
between them. -/
def pieces (delimiter : Char) (record : String) : List String :=
  (record.toList.splitOn delimiter).map String.ofList

structure TokenCounts where
  records : Nat := 0
  tokens : Nat := 0
  /-- Pieces that were in the set already. -/
  duplicates : Nat := 0
  deriving Repr, DecidableEq

structure Tokens where
  terms : Vocabulary := ∅
  counts : TokenCounts := {}

namespace Tokens

def addTerm (t : Tokens) (term : String) : Tokens :=
  let (new, terms) := t.terms.add term
  { terms, counts := { t.counts with
      tokens := t.counts.tokens + 1
      duplicates := t.counts.duplicates + if new then 0 else 1 } }

def addRecord (delimiter : Char) (t : Tokens) (record : String) : Tokens :=
  (pieces delimiter record).foldl addTerm
    { t with counts := { t.counts with records := t.counts.records + 1 } }

end Tokens

/-- Collects the pieces of all records, the empty ones among them. -/
def tokenize (delimiter : Char) (records : List String) : Tokens :=
  records.foldl (Tokens.addRecord delimiter) {}

end Lexicon
