import Lexicon.Event
import Lexicon.Pattern
import Lexicon.Text.Blank

/-! Which events a specification such as `warn,target=debug/pattern` lets into the log. -/

namespace Lexicon

/-- Up to which level events are logged, if any, where their targets start with a given name. -/
structure Directive where
  target : Option String
  limit : Option Level
  deriving Repr, DecidableEq

/-- A part of a specification that says nothing, or a specification that says nothing at all. -/
inductive LogFault where
  | directive (text : String)
  | slashes (spec : String)
  | pattern (refusal : Pattern.Refusal)
  deriving Repr, DecidableEq

namespace LogFault

def explanation : LogFault → String
  | directive text => "invalid logging spec '" ++ text ++ "'"
  | slashes spec => "invalid logging spec '" ++ spec ++ "' (too many '/'s)"
  | pattern refusal => "invalid regex filter - " ++ refusal.message

def message (f : LogFault) : String := "warning: " ++ f.explanation ++ ", ignoring it"

end LogFault

namespace Directive

/-- The limit that a word stands for in any mixture of cases; `off` allows no level. -/
def limit? (word : String) : Option (Option Level) :=
  let name := String.ofList (word.toList.map Char.toUpper)
  if name = "OFF" then some none
  else (Level.all.find? fun level => level.name = name).map some

/-- Reads `level`, `target` or `target=level`. A target without a level is logged in full. -/
def read (text : String) : Except LogFault Directive :=
  match (text.toList.splitOn '=').map String.ofList with
  | [word] =>
    match limit? word with
    | some limit => .ok ⟨none, limit⟩
    | none => .ok ⟨some word, some .trace⟩
  | [target, word] =>
    let word := trimmed word
    if word = "" then .ok ⟨some target, some .trace⟩
    else match limit? word with
      | some limit => .ok ⟨some target, limit⟩
      | none => .error (.directive word)
  | _ => .error (.directive text)

def concerns (d : Directive) (target : String) : Bool :=
  (d.target.getD "").toList.isPrefixOf target.toList

def size (d : Directive) : Nat := (d.target.getD "").utf8ByteSize

end Directive

/-- What is let into the log: by where an event belongs to, and by what is in its message. -/
structure LogFilter where
  directives : List Directive := []
  pattern : Option Pattern.Regex := none

namespace LogFilter

def add (f : LogFilter) (d : Directive) : LogFilter :=
  { f with directives :=
      if f.directives.any (·.target = d.target) then
        f.directives.map fun e => if e.target = d.target then d else e
      else f.directives ++ [d] }

/-- Reads directives between commas, and lists those that say nothing. -/
def ofDirectives (text : List Char) : LogFilter × List LogFault :=
  let parts := (text.splitOn ',').map fun cs => trimmed (String.ofList cs)
  (parts.filter (· != "")).foldl
    (fun (f, faults) part => match Directive.read part with
      | .ok d => (f.add d, faults)
      | .error fault => (f, faults ++ [fault]))
    ({}, [])

/-- Reads directives, and behind a slash a pattern. A second slash makes the whole say nothing. -/
def ofSpec (spec : String) : LogFilter × List LogFault :=
  match spec.toList.splitOn '/' with
  | [text] => ofDirectives text
  | [text, written] =>
    let (f, faults) := ofDirectives text
    match Pattern.read (String.ofList written) with
    | .ok pattern => ({ f with pattern := some pattern }, faults)
    | .error refusal => (f, faults ++ [.pattern refusal])
  | _ => ({}, [.slashes spec])

/-- The limit for a target: that of the longest name it starts with, of equal ones the last. Without
any directive errors alone are logged. -/
def limit (f : LogFilter) (target : String) : Option Level :=
  if f.directives.isEmpty then some .error
  else
    let closest := (f.directives.filter (·.concerns target)).foldl
      (fun best d => match best with
        | some b => if b.size ≤ d.size then some d else best
        | none => some d)
      none
    closest.bind (·.limit)

def allows (f : LogFilter) (e : Event) : Bool :=
  (f.limit e.target).any (e.level.rank ≤ ·.rank) && f.pattern.all (·.occursIn e.message)

def log (f : LogFilter) (time : String) (events : List Event) : String :=
  String.join ((events.filter f.allows).map (·.line time))

end LogFilter
end Lexicon
