import Lexicon.Pattern.Regex

/-! How many bytes the automata of expressions take. A part has a copy of its own for each time that
it is repeated. -/

namespace Lexicon
namespace Pattern
namespace Size

def state : Nat := 32

def fork (branches : Nat) : Nat := state + 4 * branches

def asciiRuns (s : CharSet) : Nat :=
  (List.range 0x80).countP fun n =>
    s.contains (Char.ofNat n) && (n = 0 || !s.contains (Char.ofNat (n - 1)))

/-- A set of characters of ASCII: one state with an edge for each stretch, and its end. -/
def ofAscii (s : CharSet) : Nat :=
  match (List.range 0x80).countP fun n => s.contains (Char.ofNat n) with
  | 0 => state
  | 1 => state
  | _ => 2 * state + 8 * asciiRuns s

/-- What a stretch beyond ASCII adds that is encoded in so many bytes. -/
def stretch (bytes : Nat) : Nat := 4 + bytes * state

/-- A set that reaches beyond ASCII, but for what lies there. -/
def beyondAscii (s : CharSet) : Nat := fork 0 + state + asciiRuns s * stretch 1

/-- A set of characters and what differs from them in case only: in two letters that is beyond
ASCII. -/
def ofFolded (s : CharSet) : Nat :=
  let more := (if s.contains '\u017f' then stretch 2 else 0)
    + if s.contains '\u212a' then stretch 3 else 0
  if more = 0 then ofAscii s else beyondAscii s + more

/-- All characters beyond ASCII are one stretch of two bytes, four of three and three of four. -/
def allBeyondAscii : Nat := stretch 2 + 4 * stretch 3 + 3 * stretch 4

/-- The stretches of a property as they are encoded, taken as a whole. -/
def ofProperty : Property → Nat
  | .any => 964
  | .ascii => 72
  | .word => 49960
  | .digit => 5148
  | .space => 680
  | .alphabetic => 47900
  | .lowercase => 28300
  | .uppercase => 26900
  | .category ks => ks.foldl (fun n k => n + if k = .cn then 41900 else 64 + 60 * k.runs.length) 0
  | .script name => 64 + 60 * ((Script.named? name).map (·.ranges.length)).getD 0
  | .scriptUse name => 124 + 60 * ((Script.named? name).map (·.ranges.length)).getD 0
  | .binary name => 64 + 60 * ((BinaryProperty.named? name).map (·.length)).getD 0
  | .age version => 64 + 60 * Age.length version
  | .graphemeBreak _ => 20000
  | .wordBreak _ => 20000
  | .sentenceBreak _ => 20000

def ofComplement : Property → Nat
  | .any => state
  | .word => 46500
  | .digit => 12780
  | .space => 1924
  | p => ofProperty p + 900

def ofSet : CharSet → Nat
  | .empty => state
  | .range first last =>
    if first = last then first.utf8Size * state
    else if last.toNat < 0x80 then ofAscii (.range first last)
    else 2 * state + 2 * stretch last.utf8Size
  | .property p => ofProperty p
  | .compl (.property p) => ofComplement p
  | .compl a => if a.isAscii then beyondAscii a.compl + allBeyondAscii else ofSet a + 900
  | .folded a => if a.isAscii then ofFolded a.folded else 2 * ofSet a
  | .asciiFolded a => ofAscii a.asciiFolded
  | .union a b => if (a.union b).isAscii then ofAscii (a.union b) else ofSet a + ofSet b
  | .inter a b => if (a.inter b).isAscii then ofAscii (a.inter b) else ofSet a + ofSet b

/-- Parts one after another; those that say nothing leave no trace. -/
def sequence (sizes : List Nat) : Nat := if sizes = [] then state else sizes.foldl (· + ·) 0

def choice (sizes : List Nat) : Nat := fork sizes.length + state + sizes.foldl (· + ·) 0

def noted (size : Nat) : Nat := 2 * state + size

/-- A repeated part of some size. One that takes no characters is taken once at most. -/
def times (r : Regex) (size least : Nat) (most : Option Nat) : Nat :=
  let least := if r.isZeroWidth then min least 1 else least
  let most := if r.isZeroWidth then some (min (most.getD 1) 1) else most
  match least, most with
  | 0, some 0 => state
  | 0, some 1 => fork 2 + size + state
  | 0, none => if r.canBeEmpty then 2 * fork 2 + size + state else fork 2 + size
  | n, none => n * size + fork 2
  | n, some m =>
    if m ≤ n then n * size
    else (if n = 0 then state else n * size) + (m - n) * (fork 2 + size) + state

/-- A whole pattern, with the start that goes over what precedes a match, and its end. -/
def whole (size : Nat) : Nat := noted size + 4 * state + 16

end Size
end Pattern
end Lexicon
