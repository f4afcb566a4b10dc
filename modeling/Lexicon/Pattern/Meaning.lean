import Lexicon.Pattern.Node
import Lexicon.Pattern.Size

/-! What the parts of a pattern mean. -/

namespace Lexicon
namespace Pattern

structure Modes where
  ignoreCase : Bool := false
  multiLine : Bool := false
  dotAll : Bool := false
  unicode : Bool := true
  crlf : Bool := false

namespace Modes

def change (m : Modes) : Mode × Bool → Modes
  | (.ignoreCase, on) => { m with ignoreCase := on }
  | (.multiLine, on) => { m with multiLine := on }
  | (.dotAll, on) => { m with dotAll := on }
  | (.unicode, on) => { m with unicode := on }
  | (.crlf, on) => { m with crlf := on }
  | (.swapGreed, _) => m
  | (.spaced, _) => m

def changeAll (m : Modes) (changes : ModeChanges) : Modes := changes.foldl change m

/-- A set together with what differs from it in case only, where case is ignored. -/
def fold (m : Modes) (s : CharSet) : CharSet :=
  if m.ignoreCase then if m.unicode then .folded s else .asciiFolded s else s

/-- A set or its complement. Without Unicode a complement holds parts of characters. -/
def negate (m : Modes) (span : Span) (negated : Bool) (s : CharSet) : Except Fault CharSet :=
  if negated then
    if m.unicode then .ok s.compl else .error ⟨.invalidUtf8, span, none⟩
  else .ok s

def wordKind (m : Modes) : WordKind := if m.unicode then .unicode else .ascii

end Modes

def AsciiSet.chars : AsciiSet → CharSet
  | alnum => .ofRanges [('0', '9'), ('A', 'Z'), ('a', 'z')]
  | alpha => .ofRanges [('A', 'Z'), ('a', 'z')]
  | ascii => .range '\x00' '\x7f'
  | blank => .ofRanges [('\t', '\t'), (' ', ' ')]
  | cntrl => .ofRanges [('\x00', '\x1f'), ('\x7f', '\x7f')]
  | digit => .range '0' '9'
  | graph => .range '!' '~'
  | lower => .range 'a' 'z'
  | print => .range ' ' '~'
  | punct => .ofRanges [('!', '/'), (':', '@'), ('[', '\x60'), ('\x7b', '~')]
  | space => .ofRanges [('\t', '\r'), (' ', ' ')]
  | upper => .range 'A' 'Z'
  | word => .ofRanges [('0', '9'), ('A', 'Z'), ('_', '_'), ('a', 'z')]
  | xdigit => .ofRanges [('0', '9'), ('A', 'F'), ('a', 'f')]

def Shorthand.chars (m : Modes) : Shorthand → CharSet
  | digit => if m.unicode then .property .digit else AsciiSet.digit.chars
  | space => if m.unicode then .property .space else AsciiSet.space.chars
  | word => if m.unicode then .property .word else AsciiSet.word.chars

def PropertyName.find (span : Span) (p : PropertyName) : Except Fault Property :=
  let found := match p with
    | named name => Property.named name
    | valued name value => Property.valued name value
  match found with
  | .ok p => .ok p
  | .error .property => .error ⟨.propertyUnknown, span, none⟩
  | .error .value => .error ⟨.propertyValueUnknown, span, none⟩

def SetName.chars (m : Modes) (span : Span) : SetName → Except Fault CharSet
  | shorthand s negated => m.negate span negated (s.chars m)
  | property p negated => do
    if !m.unicode then .error ⟨.unicodeNotAllowed, span, none⟩
    let found ← p.find span
    m.negate span negated (m.fold (.property found))

/-- Without Unicode a byte that is no character of ASCII is no text. -/
def Literal.check (m : Modes) (span : Span) (l : Literal) : Except Fault Unit :=
  if !m.unicode && l.byte && 0x80 ≤ l.char.toNat then .error ⟨.invalidUtf8, span, none⟩ else .ok ()

/-- The character of a literal in a set, which without Unicode holds characters of ASCII only. -/
def Literal.member (m : Modes) (span : Span) (l : Literal) : Except Fault Char := do
  l.check m span
  if !m.unicode && 0x80 ≤ l.char.toNat then .error ⟨.unicodeNotAllowed, span, none⟩
  .ok l.char

def SetOperator.apply : SetOperator → CharSet → CharSet → CharSet
  | both, a, b => a.inter b
  | onlyFirst, a, b => a.diff b
  | exactlyOne, a, b => a.symmDiff b

mutual

def SetNode.chars (m : Modes) : SetNode → Except Fault CharSet
  | .empty _ => .ok .empty
  | .literal span l => (l.member m span).map .single
  | .range _ firstSpan lastSpan first last => do
    let a ← first.member m firstSpan
    let b ← last.member m lastSpan
    .ok (.range a b)
  | .ascii span s negated => m.negate span negated (m.fold s.chars)
  | .named span s => s.chars m span
  | .bracket span negated inner => do
    let s ← inner.chars m
    m.negate span negated (m.fold s)
  | .union _ items => SetNode.allChars m items
  | .combined _ o left right => do
    let a ← left.chars m
    let b ← right.chars m
    .ok (o.apply (m.fold a) (m.fold b))

def SetNode.allChars (m : Modes) : List SetNode → Except Fault CharSet
  | [] => .ok .empty
  | n :: ns => do
    let a ← n.chars m
    let b ← SetNode.allChars m ns
    .ok (a.union b)

end

def Bracket.chars (m : Modes) (b : Bracket) : Except Fault CharSet := do
  let s ← b.inner.chars m
  m.negate b.span b.negated (m.fold s)

def Anchor.look (m : Modes) : Anchor → Look
  | lineStart => if m.multiLine then if m.crlf then .crlfStart else .lineStart else .textStart
  | lineEnd => if m.multiLine then if m.crlf then .crlfEnd else .lineEnd else .textEnd
  | textStart => .textStart
  | textEnd => .textEnd
  | edge => .edge m.wordKind
  | noEdge => .noEdge m.wordKind
  | wordStart => .wordStart m.wordKind
  | wordEnd => .wordEnd m.wordKind
  | noWordBefore => .noWordBefore m.wordKind
  | noWordAfter => .noWordAfter m.wordKind

/-- The characters that a full stop stands for: all, or all but those that end lines. -/
def Modes.anyChar (m : Modes) : CharSet :=
  if m.dotAll then .property .any
  else if m.crlf then .compl (.union (.single '\r') (.single '\n'))
  else .compl (.single '\n')

/-- What a part means, and how many bytes its automaton takes. -/
structure Meaning where
  regex : Regex
  size : Nat

namespace Meaning

def nothing : Meaning := ⟨.empty, Size.state⟩

def ofSet (s : CharSet) : Meaning := ⟨.set s, Size.ofSet s⟩

def ofLook (l : Look) : Meaning := ⟨.look l, Size.state⟩

def times (a : Meaning) (least : Nat) (most : Option Nat) : Meaning :=
  ⟨.times a.regex least most, Size.times a.regex a.size least most⟩

def noted (a : Meaning) : Meaning := { a with size := Size.noted a.size }

def sequence (parts : List Meaning) : Meaning :=
  let kept := parts.filter (·.regex ≠ .empty)
  ⟨kept.foldr (·.regex.followedBy ·) .empty, Size.sequence (kept.map (·.size))⟩

/-- The union of sets, if there are no other branches. -/
def asSet? : List Meaning → Option CharSet
  | [] => some .empty
  | ⟨.set s, _⟩ :: rest => (asSet? rest).map s.union
  | _ => none

def choice (branches : List Meaning) : Meaning :=
  match asSet? branches with
  | some s => ofSet s
  | none =>
    ⟨branches.dropLast.foldr (.either ·.regex ·)
      ((branches.getLast?.map (·.regex)).getD (.set .empty)),
      Size.choice (branches.map (·.size))⟩

end Meaning

def Atom.meaning (m : Modes) (span : Span) : Atom → Except Fault Meaning
  | literal l => do
    l.check m span
    .ok (.ofSet (m.fold (.single l.char)))
  | anyChar => if m.unicode then .ok (.ofSet m.anyChar) else .error ⟨.invalidUtf8, span, none⟩
  | anchor a => .ok (.ofLook (a.look m))
  | named s => (s.chars m span).map .ofSet

mutual

/-- What a part means, and the modes behind it. A group has no effect on the modes behind it. -/
def Node.meaning (m : Modes) : Node → Except Fault (Meaning × Modes)
  | .empty _ => .ok (.nothing, m)
  | .modes _ changes => .ok (.nothing, m.changeAll changes)
  | .atom span a => (a.meaning m span).map (·, m)
  | .bracket b => (b.chars m).map fun s => (.ofSet s, m)
  | .repetition _ inner least most => do
    let (a, m) ← inner.meaning m
    .ok (a.times least most, m)
  | .group _ noted changes inner => do
    let (a, _) ← inner.meaning (m.changeAll changes)
    .ok (if noted then a.noted else a, m)
  | .choice _ branches => do
    let (as, m) ← Node.allMeanings m branches
    .ok (.choice as, m)
  | .sequence _ items => do
    let (as, m) ← Node.allMeanings m items
    .ok (.sequence as, m)

/-- What parts mean, from left to right. A mode that is switched in one branch of a choice stays so
in the next. -/
def Node.allMeanings (m : Modes) : List Node → Except Fault (List Meaning × Modes)
  | [] => .ok ([], m)
  | n :: ns => do
    let (a, m) ← n.meaning m
    let (as, m) ← Node.allMeanings m ns
    .ok (a :: as, m)

end

end Pattern
end Lexicon
