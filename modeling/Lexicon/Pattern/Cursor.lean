import Lexicon.Pattern.Fault
import Lexicon.Text.Blank

/-! The point up to which a pattern has been read. -/

namespace Lexicon
namespace Pattern

/-- What is still to be read of a pattern, and from where. Where it is `spaced`, white space and
comments between its parts say nothing. -/
structure Cursor where
  rest : List Char
  place : Place := {}
  spaced : Bool := false

namespace Cursor

def skip (c : Cursor) (n : Nat) : Cursor :=
  { c with rest := c.rest.drop n, place := (c.rest.take n).foldl Place.past c.place }

def bump (c : Cursor) : Cursor := c.skip 1

/-- The number of characters that say nothing. A comment goes from a hash to the end of the line. -/
def gapLength (comment : Bool) : List Char → Nat
  | [] => 0
  | c :: cs =>
    if comment then 1 + gapLength (c ≠ '\n') cs
    else if c = '#' then 1 + gapLength true cs
    else if isWhiteSpace c then 1 + gapLength false cs
    else 0

def skipGap (c : Cursor) : Cursor := if c.spaced then c.skip (gapLength false c.rest) else c

/-- Goes past a character and what says nothing behind it. -/
def next (c : Cursor) : Cursor := c.bump.skipGap

def head? (c : Cursor) : Option Char := c.rest.head?

def atEnd (c : Cursor) : Bool := c.rest.isEmpty

def isAt (c : Cursor) (x : Char) : Bool := c.rest.head? = some x

theorem length_rest_skip (c : Cursor) (n : Nat) : (c.skip n).rest.length = c.rest.length - n := by
  simp [skip]

theorem length_rest_next_lt {c : Cursor} {x : Char} {xs : List Char} (h : c.rest = x :: xs) :
    c.next.rest.length < c.rest.length := by
  have hb : c.bump.rest.length < c.rest.length := by simp [bump, length_rest_skip, h]
  unfold next skipGap
  split
  · rw [length_rest_skip]
    omega
  · exact hb

/-- The character behind the next one, past what says nothing and one hash. -/
def peek? (c : Cursor) : Option Char :=
  if c.spaced then
    match c.rest.tail.dropWhile isWhiteSpace with
    | '#' :: rest => (rest.dropWhile isWhiteSpace).head?
    | rest => rest.head?
  else c.rest.tail.head?

def collect (p : Char → Bool) (c : Cursor) : List Char × Cursor :=
  match h : c.rest with
  | [] => ([], c)
  | x :: _ =>
    have := length_rest_next_lt h
    if p x then
      let (xs, d) := c.next.collect p
      (x :: xs, d)
    else ([], c)
termination_by c.rest.length

/-- The rest behind a text that it starts with. -/
def behind? (c : Cursor) (text : String) : Option Cursor :=
  if text.toList.isPrefixOf c.rest then some (c.skip text.length) else none

def spanTo (c d : Cursor) : Span := ⟨c.place, d.place⟩

def here (c : Cursor) : Span := ⟨c.place, c.place⟩

def charSpan (c : Cursor) : Span := c.spanTo c.bump

end Cursor

def fail {α : Type} (kind : FaultKind) (span : Span) : Except Fault α := .error ⟨kind, span, none⟩

end Pattern
end Lexicon
