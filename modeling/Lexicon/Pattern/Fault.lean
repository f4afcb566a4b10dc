/-! What can be wrong with a pattern, and how the place is shown to its writer. -/

namespace Lexicon
namespace Pattern

/-- A place between the characters of a pattern. Lines and columns are counted from one. -/
structure Place where
  line : Nat := 1
  column : Nat := 1
  deriving Repr, DecidableEq

def Place.past (p : Place) (c : Char) : Place :=
  if c = '\n' then ⟨p.line + 1, 1⟩ else ⟨p.line, p.column + 1⟩

structure Span where
  start : Place
  stop : Place
  deriving Repr, DecidableEq

def Span.isOneLine (s : Span) : Bool := s.start.line = s.stop.line

inductive FaultKind where
  | setUnclosed
  | setItem
  | rangeReversed
  | rangeEnd
  | hexMissing
  | hexDigit
  | hexScalar
  | escapeCut
  | escapeUnknown
  | modeCut
  | modeUnknown
  | modeRepeated
  | negationRepeated
  | negationDangling
  | nameCut
  | nameEmpty
  | nameInvalid
  | nameRepeated
  | groupUnclosed
  | groupUnopened
  | nestedTooDeep
  | repetitionMissing
  | countMissing
  | countTooLarge
  | countUnclosed
  | countReversed
  | edgeUnclosed
  | edgeUnknown
  | edgeCut
  | propertyInvalid
  | propertyUnknown
  | propertyValueUnknown
  | backreference
  | lookAround
  | unicodeNotAllowed
  | invalidUtf8
  deriving Repr, DecidableEq

def nestLimit : Nat := 250

def FaultKind.message : FaultKind → String
  | setUnclosed => "unclosed character class"
  | setItem => "invalid escape sequence found in character class"
  | rangeReversed => "invalid character class range, the start must be <= the end"
  | rangeEnd => "invalid range boundary, must be a literal"
  | hexMissing => "hexadecimal literal empty"
  | hexDigit => "invalid hexadecimal digit"
  | hexScalar => "hexadecimal literal is not a Unicode scalar value"
  | escapeCut => "incomplete escape sequence, reached end of pattern prematurely"
  | escapeUnknown => "unrecognized escape sequence"
  | modeCut => "expected flag but got end of regex"
  | modeUnknown => "unrecognized flag"
  | modeRepeated => "duplicate flag"
  | negationRepeated => "flag negation operator repeated"
  | negationDangling => "dangling flag negation operator"
  | nameCut => "unclosed capture group name"
  | nameEmpty => "empty capture group name"
  | nameInvalid => "invalid capture group character"
  | nameRepeated => "duplicate capture group name"
  | groupUnclosed => "unclosed group"
  | groupUnopened => "unopened group"
  | nestedTooDeep => s!"exceed the maximum number of nested parentheses/brackets ({nestLimit})"
  | repetitionMissing => "repetition operator missing expression"
  | countMissing => "repetition quantifier expects a valid decimal"
  | countTooLarge => "decimal literal invalid"
  | countUnclosed => "unclosed counted repetition"
  | countReversed => "invalid repetition count range, the start must be <= the end"
  | edgeUnclosed =>
    "special word boundary assertion is either unclosed or contains an invalid character"
  | edgeUnknown =>
    "unrecognized special word boundary assertion, valid choices are: start, end, start-half "
      ++ "or end-half"
  | edgeCut =>
    "found either the beginning of a special word boundary or a bounded repetition on a \\b "
      ++ "with an opening brace, but no closing brace"
  | propertyInvalid => "invalid Unicode character class"
  | propertyUnknown => "Unicode property not found"
  | propertyValueUnknown => "Unicode property value not found"
  | backreference => "backreferences are not supported"
  | lookAround => "look-around, including look-ahead and look-behind, is not supported"
  | unicodeNotAllowed => "Unicode not allowed here"
  | invalidUtf8 => "pattern can match invalid UTF-8"

/-- Why a pattern is not understood. Where something is written a second time, `earlier` is the
place of the first. -/
structure Fault where
  kind : FaultKind
  span : Span
  earlier : Option Span := none
  deriving Repr, DecidableEq

namespace Fault

def spans (f : Fault) : List Span := f.earlier.toList ++ [f.span]

/-- A line without the carriage return that belongs to its end. -/
def withoutReturn (line : List Char) : List Char :=
  if line.getLast? = some '\r' then line.dropLast else line

/-- The lines of a pattern as they are shown. There is none behind a final line feed. -/
def shownLines (pattern : List Char) : List (List Char) :=
  let lines := pattern.splitOn '\n'
  lines.dropLast.map withoutReturn ++ (lines.getLast?.filter (· ≠ [])).toList

/-- Marks under the stretches of one line, of which `column` characters are behind. Even an empty
stretch has a mark. -/
def marks (column : Nat) : List Span → List Char
  | [] => []
  | s :: rest =>
    let gap := s.start.column - 1 - column
    let width := max 1 (s.stop.column - s.start.column)
    List.replicate gap ' ' ++ List.replicate width '^' ++ marks (column + gap + width) rest

/-- A line with marks under it where a stretch lies in it. -/
def markedLine (f : Fault) (margin : String) (number : Nat) (line : List Char) : String :=
  let here := f.spans.filter fun s => s.isOneLine && s.start.line = number
  margin ++ String.ofList line ++ "\n"
    ++ if here.isEmpty then ""
      else String.ofList (List.replicate margin.length ' ' ++ marks 0 here) ++ "\n"

def numberMargin (width number : Nat) : String :=
  let digits := toString number
  String.ofList (List.replicate (width - digits.length) ' ') ++ digits ++ ": "

def stretchNote (s : Span) : String :=
  s!"on line {s.start.line} (column {s.start.column}) through line {s.stop.line} "
    ++ s!"(column {s.stop.column - 1})\n"

def divider : String := String.ofList (List.replicate 79 '~') ++ "\n"

/-- The pattern with marks, and what is wrong with it. Several lines are numbered. -/
def report (f : Fault) (pattern : String) : String :=
  let lines := shownLines pattern.toList
  let numbered := lines.zip (List.range' 1 lines.length)
  let shown :=
    if pattern.toList.contains '\n' then
      let width := (toString (pattern.toList.splitOn '\n').length).length
      divider
        ++ String.join (numbered.map fun (line, n) => f.markedLine (numberMargin width n) n line)
        ++ divider ++ String.join ((f.spans.filter fun s => !s.isOneLine).map stretchNote)
    else String.join (numbered.map fun (line, n) => f.markedLine "    " n line)
  "regex parse error:\n" ++ shown ++ "error: " ++ f.kind.message

end Fault
end Pattern
end Lexicon
