import Lexicon.Console.Style
import Lexicon.Generation
import Lexicon.Number.FileSize
import Lexicon.Number.Duration
import Lexicon.Number.Grouped

/-! The counters of a run as a table. -/

namespace Lexicon

structure Timing where
  duration : String
  throughput : String
  deriving Repr, DecidableEq

def Timing.ofElapsed (elapsed : Duration) (records : Nat) : Timing where
  duration := elapsed.text
  throughput := (elapsed.rate records).textFixed 2 ++ " names/sec"

namespace Summary

def rule (color : Bool) : String := Style.green.paint color (String.ofList (List.replicate 60 '═'))

def row (color : Bool) (style : Style) (label value : String) : String :=
  "  " ++ style.paint color label ++ " " ++ value

def sizes (color : Bool) (counts : RunCounts) : List String :=
  [row color .green "Corpus size:    " (FileSize.text counts.corpusBytes),
   row color .green "Names:          " (groupedText counts.tokens.records),
   row color .green "Terms split:    " (groupedText counts.tokens.tokens),
   row color .yellow "Duplicates:     " (groupedText counts.tokens.duplicates),
   row color .green "Unique terms:   " (groupedText counts.uniqueTerms)]

def terms (color : Bool) (counts : RunCounts) : List String :=
  [row color .yellow "Empty dropped:  " (groupedText counts.filter.empty),
   row color .yellow "Numeric dropped:" (groupedText counts.filter.numeric),
   row color .boldGreen "Retained:       "
     (Style.boldGreen.paint color (groupedText counts.filter.retained)),
   row color .green "Variable terms: " (groupedText counts.lowerTerms),
   row color .green "Constant terms: " (groupedText counts.upperTerms)]

def times (color : Bool) (timing : Timing) : List String :=
  [row color .green "Duration:       " timing.duration,
   row color .green "Throughput:     " timing.throughput]

def lines (color : Bool) (timing : Timing) (counts : RunCounts) : List String :=
  let title := Style.boldGreen.paint color "                    WORDLISTS COMPLETE"
  ["", rule color, title, rule color, ""]
    ++ sizes color counts ++ [""] ++ terms color counts ++ [""] ++ times color timing
    ++ ["", rule color]

end Summary
end Lexicon
