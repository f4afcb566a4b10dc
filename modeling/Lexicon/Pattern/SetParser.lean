import Lexicon.Pattern.Escape

/-! Sets of characters between brackets. -/

namespace Lexicon
namespace Pattern

/-- The items of a set that is being read, the last one first, and what they are to be combined
with. -/
structure SetItems where
  origin : Place
  items : List SetNode := []
  left : Option (SetOperator × SetNode) := none

namespace SetItems

def push (s : SetItems) (n : SetNode) : SetItems := { s with items := n :: s.items }

def union (s : SetItems) : SetNode :=
  match s.items.reverse, s.items.head? with
  | [], _ => .empty ⟨s.origin, s.origin⟩
  | [n], _ => n
  | first :: rest, last =>
    .union ⟨first.span.start, (last.getD first).span.stop⟩ (first :: rest)

def node (s : SetItems) : SetNode :=
  match s.left with
  | none => s.union
  | some (o, n) => .combined ⟨n.span.start, s.union.span.stop⟩ o n s.union

def combine (s : SetItems) (o : SetOperator) (origin : Place) : SetItems :=
  { origin, left := some (o, s.node) }

end SetItems

structure OpenSet where
  span : Span
  negated : Bool
  content : SetItems

def OpenSet.push (s : OpenSet) (n : SetNode) : OpenSet := { s with content := s.content.push n }

/-- A set in reading, and those around it, the closest one first. -/
structure SetParser where
  cursor : Cursor
  inner : OpenSet
  outer : List OpenSet := []

namespace SetParser

def hyphen : Char := '-'

/-- Reads the hyphens at the head of a set, which stand for themselves. -/
def readHyphens (c : Cursor) : List SetNode × Cursor :=
  match h : c.rest with
  | [] => ([], c)
  | x :: _ =>
    have := Cursor.length_rest_next_lt h
    if x = hyphen then
      let (ns, d) := readHyphens c.next
      (ns ++ [.literal c.charSpan ⟨hyphen, false⟩], d)
    else ([], c)
termination_by c.rest.length

/-- Reads an opening bracket and what may stand only behind it: a circumflex, hyphens, or a closing
bracket that stands for itself. -/
def readOpening (c : Cursor) : Except Fault (OpenSet × Cursor) := do
  let d := c.next
  if d.atEnd then fail .setUnclosed (c.spanTo d)
  let negated := d.isAt '^'
  let e := if negated then d.next else d
  if e.atEnd then fail .setUnclosed (c.spanTo e)
  let (hyphens, f) := readHyphens e
  if f.atEnd then fail .setUnclosed c.here
  if hyphens = [] && f.isAt ']' then
    let g := f.next
    if g.atEnd then fail .setUnclosed (c.spanTo g)
    let item : SetNode := .literal f.charSpan ⟨']', false⟩
    .ok (⟨c.spanTo g, negated, { origin := e.place, items := [item] }⟩, g)
  else .ok (⟨c.spanTo f, negated, { origin := e.place, items := hyphens }⟩, f)

/-- Reads the name of a set of ASCII characters between colons, if there is one. -/
def readAscii? (c : Cursor) : Option (SetNode × Cursor) := do
  let d ← c.behind? "[:"
  let e := (d.behind? "^").getD d
  let name := e.rest.takeWhile (· ≠ ':')
  let f ← (e.skip name.length).behind? ":]"
  let s ← AsciiSet.ofName? (String.ofList name)
  some (.ascii (c.spanTo f) s (d.isAt '^'), f)

def readAtom (c : Cursor) (x : Char) : Except Fault (Atom × Cursor) :=
  if x = '\\' then Escape.read c else .ok (.literal ⟨x, false⟩, c.bump)

def item (span : Span) : Atom → Except Fault SetNode
  | .literal l => .ok (.literal span l)
  | .named s => .ok (.named span s)
  | _ => fail .setItem span

def rangeEnd (span : Span) : Atom → Except Fault Literal
  | .literal l => .ok l
  | _ => fail .rangeEnd span

def readRange (opened : Span) (c : Cursor) (x : Char) : Except Fault (SetNode × Cursor) := do
  let (first, d) ← readAtom c x
  let firstSpan := c.spanTo d
  let e := d.skipGap
  if e.atEnd then fail .setUnclosed opened
  if !e.isAt hyphen || e.peek? = some ']' || e.peek? = some hyphen then
    let n ← item firstSpan first
    .ok (n, e)
  else
    let f := e.next
    match f.head? with
    | none => fail .setUnclosed opened
    | some y =>
      let (last, g) ← readAtom f y
      let lastSpan := f.spanTo g
      let first ← rangeEnd firstSpan first
      let last ← rangeEnd lastSpan last
      let span : Span := ⟨firstSpan.start, lastSpan.stop⟩
      if last.char < first.char then fail .rangeReversed span
      .ok (.range span firstSpan lastSpan first last, g)

def operator? : List Char → Option SetOperator
  | '&' :: '&' :: _ => some .both
  | '-' :: '-' :: _ => some .onlyFirst
  | '~' :: '~' :: _ => some .exactlyOne
  | _ => none

def push (p : SetParser) (n : SetNode) (c : Cursor) : SetParser :=
  { p with cursor := c, inner := p.inner.push n }

def openInner (p : SetParser) (c : Cursor) : Except Fault SetParser := do
  let (inner, d) ← readOpening c
  .ok { cursor := d, inner, outer := p.inner :: p.outer }

inductive Progress where
  | closed (b : Bracket) (c : Cursor)
  | going (p : SetParser)

def close (p : SetParser) (c : Cursor) : Progress :=
  let d := c.bump
  let span : Span := ⟨p.inner.span.start, d.place⟩
  match p.outer with
  | [] => .closed ⟨span, p.inner.negated, p.inner.content.node⟩ d
  | s :: outer =>
    .going ⟨d, s.push (.bracket span p.inner.negated p.inner.content.node), outer⟩

def step (p : SetParser) : Except Fault Progress := do
  let c := p.cursor.skipGap
  match c.head?, operator? c.rest with
  | none, _ => fail .setUnclosed p.inner.span
  | some '[', _ =>
    match readAscii? c with
    | some (n, d) => .ok (.going (p.push n d))
    | none => (openInner p c).map .going
  | some ']', _ => .ok (close p c)
  | some _, some o =>
    let d := c.skip 2
    .ok (.going { p with
      cursor := d, inner := { p.inner with content := p.inner.content.combine o d.place } })
  | some x, none =>
    let (n, d) ← readRange p.inner.span c x
    .ok (.going (p.push n d))

/-- Reads up to the bracket that closes the outermost set. Each part takes a character away, so that
as many parts as there are characters are enough. -/
def run : Nat → SetParser → Except Fault (Bracket × Cursor)
  | 0, p => fail .setUnclosed p.inner.span
  | n + 1, p =>
    match p.step with
    | .error f => .error f
    | .ok (.closed b c) => .ok (b, c)
    | .ok (.going q) => run n q

end SetParser

/-- Reads a set in brackets, at the opening one, of which at most so many characters follow. -/
def readBracket (n : Nat) (c : Cursor) : Except Fault (Bracket × Cursor) := do
  let (inner, d) ← SetParser.readOpening c
  SetParser.run n { cursor := d, inner }

end Pattern
end Lexicon
