/-! The sign of progress. -/

namespace Lexicon

/-- A sign of progress with a message. A hidden spinner has none. -/
structure Spinner where
  message : String
  isFinished : Bool := false
  deriving Repr, DecidableEq

namespace Spinner

/-- A tab is as wide as eight spaces, wherever it stands. -/
def expandTabs (text : String) : String :=
  String.ofList (text.toList.flatMap fun c => if c = '\t' then List.replicate 8 ' ' else [c])

def start (message : String) (hidden : Bool) : Spinner :=
  { message := if hidden then "" else expandTabs message }

def finish (s : Spinner) : Spinner := { s with isFinished := true }

end Spinner
end Lexicon
