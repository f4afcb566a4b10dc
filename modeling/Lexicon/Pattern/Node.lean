import Lexicon.Pattern.Fault

/-! The parts of a pattern as they are written. -/

namespace Lexicon
namespace Pattern

inductive Mode where
  | ignoreCase
  | multiLine
  | dotAll
  | swapGreed
  | unicode
  | crlf
  | spaced
  deriving Repr, DecidableEq

def Mode.ofLetter? : Char → Option Mode
  | 'i' => some ignoreCase
  | 'm' => some multiLine
  | 's' => some dotAll
  | 'U' => some swapGreed
  | 'u' => some unicode
  | 'R' => some crlf
  | 'x' => some spaced
  | _ => none

abbrev ModeChanges := List (Mode × Bool)

/-- A character that stands for itself; `byte` where it is written with two hexadecimal digits. -/
structure Literal where
  char : Char
  byte : Bool := false
  deriving Repr, DecidableEq

inductive Shorthand where
  | digit
  | space
  | word
  deriving Repr, DecidableEq

inductive PropertyName where
  | named (name : String)
  | valued (name value : String)
  deriving Repr, DecidableEq

inductive SetName where
  | shorthand (s : Shorthand) (negated : Bool)
  | property (p : PropertyName) (negated : Bool)
  deriving Repr, DecidableEq

/-- What is asked of the characters beside a place; the angles of words are inside or outside. -/
inductive Anchor where
  | lineStart
  | lineEnd
  | textStart
  | textEnd
  | edge
  | noEdge
  | wordStart
  | wordEnd
  | noWordBefore
  | noWordAfter
  deriving Repr, DecidableEq

inductive Atom where
  | literal (l : Literal)
  | anyChar
  | anchor (a : Anchor)
  | named (s : SetName)
  deriving Repr, DecidableEq

inductive AsciiSet where
  | alnum | alpha | ascii | blank | cntrl | digit | graph | lower | print | punct | space | upper
  | word | xdigit
  deriving Repr, DecidableEq

def AsciiSet.ofName? : String → Option AsciiSet
  | "alnum" => some alnum
  | "alpha" => some alpha
  | "ascii" => some ascii
  | "blank" => some blank
  | "cntrl" => some cntrl
  | "digit" => some digit
  | "graph" => some graph
  | "lower" => some lower
  | "print" => some print
  | "punct" => some punct
  | "space" => some space
  | "upper" => some upper
  | "word" => some word
  | "xdigit" => some xdigit
  | _ => none

inductive SetOperator where
  | both
  | onlyFirst
  | exactlyOne
  deriving Repr, DecidableEq

inductive SetNode where
  | empty (span : Span)
  | literal (span : Span) (l : Literal)
  | range (span : Span) (firstSpan lastSpan : Span) (first last : Literal)
  | ascii (span : Span) (s : AsciiSet) (negated : Bool)
  | named (span : Span) (s : SetName)
  | bracket (span : Span) (negated : Bool) (inner : SetNode)
  | union (span : Span) (items : List SetNode)
  | combined (span : Span) (o : SetOperator) (left right : SetNode)

def SetNode.span : SetNode → Span
  | empty s => s
  | literal s _ => s
  | range s .. => s
  | ascii s .. => s
  | named s _ => s
  | bracket s .. => s
  | union s _ => s
  | combined s .. => s

structure Bracket where
  span : Span
  negated : Bool
  inner : SetNode

inductive Node where
  | empty (span : Span)
  | modes (span : Span) (changes : ModeChanges)
  | atom (span : Span) (a : Atom)
  | bracket (b : Bracket)
  | repetition (span : Span) (inner : Node) (least : Nat) (most : Option Nat)
  /-- A group; `noted` where its place in a text could be asked for. -/
  | group (span : Span) (noted : Bool) (changes : ModeChanges) (inner : Node)
  | choice (span : Span) (branches : List Node)
  | sequence (span : Span) (items : List Node)

def Node.span : Node → Span
  | empty s => s
  | modes s _ => s
  | atom s _ => s
  | bracket b => b.span
  | repetition s .. => s
  | group s .. => s
  | choice s _ => s
  | sequence s _ => s

mutual

/-- The first part of a set that lies deeper than so many levels. -/
def SetNode.tooDeep? (levels : Nat) : SetNode → Option Span
  | .bracket s _ inner => if levels = 0 then some s else inner.tooDeep? (levels - 1)
  | .union s items => if levels = 0 then some s else SetNode.anyTooDeep? (levels - 1) items
  | .combined s _ left right =>
    if levels = 0 then some s else left.tooDeep? (levels - 1) <|> right.tooDeep? (levels - 1)
  | _ => none

def SetNode.anyTooDeep? (levels : Nat) : List SetNode → Option Span
  | [] => none
  | n :: ns => n.tooDeep? levels <|> SetNode.anyTooDeep? levels ns

end

mutual

def Node.tooDeep? (levels : Nat) : Node → Option Span
  | .bracket b => if levels = 0 then some b.span else b.inner.tooDeep? (levels - 1)
  | .repetition s inner _ _ => if levels = 0 then some s else inner.tooDeep? (levels - 1)
  | .group s _ _ inner => if levels = 0 then some s else inner.tooDeep? (levels - 1)
  | .choice s branches => if levels = 0 then some s else Node.anyTooDeep? (levels - 1) branches
  | .sequence s items => if levels = 0 then some s else Node.anyTooDeep? (levels - 1) items
  | _ => none

def Node.anyTooDeep? (levels : Nat) : List Node → Option Span
  | [] => none
  | n :: ns => n.tooDeep? levels <|> Node.anyTooDeep? levels ns

end

end Pattern
end Lexicon
