import Lexicon.Pattern.CharSet

/-! Regular expressions that also look at the characters beside a place, and where they occur. -/

namespace Lexicon
namespace Pattern

/-- The characters beside a place in a text. There is none beyond an end. -/
structure Gap where
  before : Option Char
  after : Option Char

inductive WordKind where
  | unicode
  | ascii
  deriving Repr, DecidableEq

def WordKind.contains : WordKind → Char → Bool
  | unicode, c => isWordCharacter c
  | ascii, c => c.isAlphanum || c = '_'

inductive Look where
  | textStart
  | textEnd
  | lineStart
  | lineEnd
  /-- At the ends of lines that a carriage return, a line feed or both in this order may end. -/
  | crlfStart
  | crlfEnd
  | edge (k : WordKind)
  | noEdge (k : WordKind)
  | wordStart (k : WordKind)
  | wordEnd (k : WordKind)
  | noWordBefore (k : WordKind)
  | noWordAfter (k : WordKind)
  deriving Repr, DecidableEq

namespace Look

def wordBefore (k : WordKind) (g : Gap) : Bool := g.before.any k.contains

def wordAfter (k : WordKind) (g : Gap) : Bool := g.after.any k.contains

def holds (g : Gap) : Look → Bool
  | textStart => g.before.isNone
  | textEnd => g.after.isNone
  | lineStart => g.before.all (· = '\n')
  | lineEnd => g.after.all (· = '\n')
  | crlfStart =>
    g.before.all fun c => c = '\n' || c = '\r' && g.after != some '\n'
  | crlfEnd =>
    g.after.all fun c => c = '\r' || c = '\n' && g.before != some '\r'
  | edge k => wordBefore k g != wordAfter k g
  | noEdge k => wordBefore k g == wordAfter k g
  | wordStart k => !wordBefore k g && wordAfter k g
  | wordEnd k => wordBefore k g && !wordAfter k g
  | noWordBefore k => !wordBefore k g
  | noWordAfter k => !wordAfter k g

end Look

inductive Regex where
  | empty
  | set (s : CharSet)
  | look (l : Look)
  | seq (a b : Regex)
  | either (a b : Regex)
  | times (a : Regex) (least : Nat) (most : Option Nat)
  deriving Repr, DecidableEq

namespace Regex

/-- One expression and then another, without a part that says nothing. -/
def followedBy : Regex → Regex → Regex
  | empty, b => b
  | a, empty => a
  | a, b => seq a b

/-- Whether an expression matches the empty text at a place. -/
def isEmptyAt (g : Gap) : Regex → Bool
  | empty => true
  | set _ => false
  | look l => l.holds g
  | seq a b => a.isEmptyAt g && b.isEmptyAt g
  | either a b => a.isEmptyAt g || b.isEmptyAt g
  | times a least _ => least = 0 || a.isEmptyAt g

/-- What may be left of an expression once it has taken the character behind a place. Rounds of a
repetition that take nothing may come before the one that takes it. -/
def rests (g : Gap) (c : Char) : Regex → List Regex
  | empty => []
  | set s => if s.contains c then [empty] else []
  | look _ => []
  | seq a b =>
    (a.rests g c).map (·.followedBy b) ++ if a.isEmptyAt g then b.rests g c else []
  | either a b => a.rests g c ++ b.rests g c
  | times a least most =>
    if most = some 0 then []
    else
      let again := times a (if a.isEmptyAt g then 0 else least - 1) (most.map (· - 1))
      (a.rests g c).map (·.followedBy again)

/-- Whether an expression, or what is left of one, matches a text that starts here or later. -/
def occursFrom (r : Regex) (begun : List Regex) (before : Option Char) : List Char → Bool
  | [] => (r :: begun).any (·.isEmptyAt ⟨before, none⟩)
  | c :: cs =>
    let g : Gap := ⟨before, some c⟩
    (r :: begun).any (·.isEmptyAt g)
      || occursFrom r ((r :: begun).flatMap (·.rests g c)).eraseDups (some c) cs

def occursIn (r : Regex) (text : String) : Bool := r.occursFrom [] none text.toList

def isZeroWidth : Regex → Bool
  | empty => true
  | set _ => false
  | look _ => true
  | seq a b => a.isZeroWidth && b.isZeroWidth
  | either a b => a.isZeroWidth && b.isZeroWidth
  | times a _ most => a.isZeroWidth || most = some 0

/-- Whether an expression matches the empty text where all that it asks of a place is true. -/
def canBeEmpty : Regex → Bool
  | empty => true
  | set _ => false
  | look _ => true
  | seq a b => a.canBeEmpty && b.canBeEmpty
  | either a b => a.canBeEmpty || b.canBeEmpty
  | times a least _ => least = 0 || a.canBeEmpty

end Regex
end Pattern
end Lexicon
