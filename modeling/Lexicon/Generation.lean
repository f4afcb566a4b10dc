import Lexicon.Noise
import Lexicon.Term
import Lexicon.Wordlist

/-! From records to wordlists. -/

namespace Lexicon

structure RunCounts where
  corpusBytes : Nat := 0
  tokens : TokenCounts := {}
  uniqueTerms : Nat := 0
  filter : FilterCounts := {}
  lowerTerms : Nat := 0
  upperTerms : Nat := 0
  deriving Repr, DecidableEq

/-- What the stages between records and wordlists produce. -/
structure Generation where
  tokens : Tokens
  filtered : Filtered
  byCasing : ByCasing

def Generation.ofRecords (delimiter : Char) (noise : NoiseRule) (records : List String) :
    Generation :=
  let tokens := tokenize delimiter records
  let filtered := Filtered.ofVocabulary noise tokens.terms
  { tokens, filtered, byCasing := ByCasing.ofVocabulary filtered.terms }

namespace Generation

def lists (g : Generation) : Wordlists := ⟨g.filtered.terms, g.byCasing⟩

/-- Replaces every counter but the size of the corpus. -/
def counts (g : Generation) (before : RunCounts) : RunCounts where
  corpusBytes := before.corpusBytes
  tokens := g.tokens.counts
  uniqueTerms := g.tokens.terms.size
  filter := g.filtered.counts
  lowerTerms := g.byCasing.lower.size
  upperTerms := g.byCasing.upper.size

end Generation

def generate (delimiter : Char) (noise : NoiseRule) (records : List String) : Wordlists :=
  (Generation.ofRecords delimiter noise records).lists

end Lexicon
