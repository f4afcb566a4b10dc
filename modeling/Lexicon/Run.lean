import Lexicon.Config
import Lexicon.Console.Notice
import Lexicon.Corpus.Loading
import Lexicon.Delivery

/-! One run: load the corpus, make the wordlists, write them, and tell about it. -/

namespace Lexicon

structure RunReport where
  result : Except Failure Wordlists
  counts : RunCounts
  disk : Disk
  notices : List Notice := []
  events : List Event := []

/-- A quiet run tells nothing. -/
def Config.tell (c : Config) (notices : List Notice) : List Notice :=
  if c.quiet then [] else notices

namespace RunReport

def loadedNotices (c : Config) (records : Nat) (counts : RunCounts) : List Notice :=
  [.info (s!"{records} names (" ++ FileSize.text counts.corpusBytes ++ ") from " ++ c.input.quoted),
   .info s!"{counts.filter.retained} terms kept, {counts.filter.numeric} dropped as noise"]

def storedNotice (kind : ListKind) (list : StoredList) : Notice :=
  .bullet (padded 6 kind.name ++ " " ++ list.path.quoted ++ s!" ({list.terms} terms, "
    ++ FileSize.text list.bytes ++ ")")

def storedNotices (written : List (ListKind × StoredList)) : List Notice :=
  .success "Output files created:" :: written.map fun (kind, list) => storedNotice kind list

def dryRunNotices (c : Config) (lists : Wordlists) : List Notice :=
  [.header "DRY RUN - No files will be written",
   .subheader "Output configuration:",
   .bullet ("Output directory: " ++ c.outputDirectory.quoted)]
  ++ ListKind.all.map fun kind => .bullet (c.names.get kind ++ s!" ({(lists.get kind).size} terms)")

def summaryNotices (c : Config) (counts : RunCounts) : List Notice :=
  if c.showStats then [.summary counts] else []

/-- A run whose corpus is loaded and whose terms are made, up to where the lists are written. -/
def generated (c : Config) (corpus : CorpusText) (d : Disk) (counts : RunCounts) (g : Generation)
    (records : Nat) : RunReport where
  result := .ok g.lists
  counts := counts
  disk := d
  notices := c.tell (.header "Loading corpus..." :: loadedNotices c records counts)
  events := corpus.events ++ g.events

def finish (c : Config) (lists : Wordlists) (r : RunReport) : RunReport :=
  if c.dryRun then
    { r with notices := r.notices ++ c.tell (dryRunNotices c lists ++ summaryNotices c r.counts) }
  else
    let delivery := deliver c.outputDirectory c.names lists r.disk
    let start : Notice := .header "Writing wordlists..."
    let events := r.events ++ delivery.written.map fun (kind, list) => .wrote kind list
    match delivery.failure with
    | some f =>
      { r with
        result := .error f
        disk := delivery.disk
        notices := r.notices ++ c.tell [start]
        events }
    | none =>
      { r with
        disk := delivery.disk
        notices := r.notices
          ++ c.tell (start :: storedNotices delivery.written ++ summaryNotices c r.counts)
        events }

end RunReport

/-- The counters of the run before stay if the corpus cannot be read. -/
def run (c : Config) (before : RunCounts) (d : Disk) : RunReport :=
  match CorpusText.read d c.input with
  | .error f =>
    { result := .error f, counts := before, disk := d
      notices := c.tell [.header "Loading corpus..."] }
  | .ok corpus =>
    let records := recordsOf corpus.text
    let g := Generation.ofRecords c.delimiter c.noise records
    let counts := g.counts { before with corpusBytes := corpus.text.utf8ByteSize }
    (RunReport.generated c corpus d counts g records.length).finish c g.lists

end Lexicon
