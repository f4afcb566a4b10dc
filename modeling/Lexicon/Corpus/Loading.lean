import Lexicon.Corpus.Record
import Lexicon.Event

/-! The text of a corpus file. -/

namespace Lexicon

structure CorpusText where
  text : String
  events : List Event := []

/-- Of an empty file nothing is logged. -/
def CorpusText.ofContent (p : Path) (content : Bytes) : CorpusText :=
  if content = [] then ⟨"", []⟩
  else
    let decoded := Decoded.ofContent content
    ⟨decoded.text, .corpusRead p content.length (.ofContent content) ::
      (decoded.warning.map Event.replaced).toList⟩

def CorpusText.read (d : Disk) (p : Path) : Except Failure CorpusText :=
  match d.read p with
  | .ok content => .ok (.ofContent p content)
  | .error r => .error (.unreadable p ⟨r, none⟩)

def readRecords (d : Disk) (p : Path) : Except Failure (List String) :=
  (CorpusText.read d p).map fun corpus => recordsOf corpus.text

end Lexicon
