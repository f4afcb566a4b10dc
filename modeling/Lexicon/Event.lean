import Lexicon.Corpus.Encoding
import Lexicon.Files.Draft
import Lexicon.Generation
import Lexicon.Text.Padded

/-! The log messages of a run. -/

namespace Lexicon

/-- How much a log message matters, the gravest first. -/
inductive Level where
  | error
  | warn
  | info
  | debug
  | trace
  deriving Repr, DecidableEq

namespace Level

def all : List Level := [error, warn, info, debug, trace]

def name : Level → String
  | error => "ERROR"
  | warn => "WARN"
  | info => "INFO"
  | debug => "DEBUG"
  | trace => "TRACE"

/-- How many levels are logged where this one is the last. -/
def rank : Level → Nat
  | error => 1
  | warn => 2
  | info => 3
  | debug => 4
  | trace => 5

end Level

inductive Event where
  | corpusRead (path : Path) (bytes : Nat) (detection : Detection)
  | replaced (warning : Warning)
  | tokenized (counts : TokenCounts) (unique : Nat)
  | droppedNumeric (term : String)
  | filtered (counts : FilterCounts)
  | parted (lower upper : Nat)
  | wrote (kind : ListKind) (list : StoredList)

namespace Event

def level : Event → Level
  | replaced _ => .warn
  | droppedNumeric _ => .trace
  | _ => .debug

/-- The part of the program that an event belongs to. -/
def target : Event → String
  | corpusRead .. => "jargon_wordlist::corpus"
  | replaced _ => "jargon_wordlist::corpus"
  | tokenized .. => "jargon_wordlist::tokenize"
  | droppedNumeric _ => "jargon_wordlist::filter"
  | filtered _ => "jargon_wordlist::filter"
  | parted .. => "jargon_wordlist::classify"
  | wrote .. => "jargon_wordlist::output"

def message : Event → String
  | corpusRead path bytes d =>
    "Corpus " ++ path.quoted ++ s!": {bytes} bytes, encoding {d.encoding.name} "
      ++ s!"(confidence {d.confidence.text})"
  | replaced warning => warning.message
  | tokenized counts unique =>
    s!"Tokenized {counts.records} records into {counts.tokens} terms ({unique} unique)"
  | droppedNumeric term => "Dropping numeric term " ++ quoted term
  | filtered counts =>
    s!"Noise filter kept {counts.retained} terms, "
      ++ s!"dropped {counts.numeric} numeric and {counts.empty} empty"
  | parted lower upper => s!"Classified {lower} variable and {upper} constant terms"
  | wrote kind list =>
    s!"Wrote {list.terms} {kind.name} terms to " ++ list.path.quoted

def text (e : Event) : String := e.level.name ++ " " ++ e.message

def line (time : String) (e : Event) : String :=
  "[" ++ time ++ " " ++ padded 5 e.level.name ++ " " ++ e.target ++ "] " ++ e.message ++ "\n"

end Event

namespace Tokens

def event (t : Tokens) : Event := .tokenized t.counts t.terms.size

end Tokens

namespace Filtered

def events (f : Filtered) : List Event := f.dropped.map .droppedNumeric ++ [.filtered f.counts]

end Filtered

namespace ByCasing

def event (c : ByCasing) : Event := .parted c.lower.size c.upper.size

end ByCasing

def Generation.events (g : Generation) : List Event :=
  g.tokens.event :: g.filtered.events ++ [g.byCasing.event]

end Lexicon
