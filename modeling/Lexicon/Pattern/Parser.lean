import Lexicon.Pattern.SetParser
import Lexicon.Text.Alphabetic

/-! Patterns from left to right: groups, choices, sequences and repetitions. -/

namespace Lexicon
namespace Pattern

/-- The branches of a group that is being read; parts and branches with the last one first. -/
structure Branches where
  origin : Place
  finished : List Node := []
  partOrigin : Place := origin
  parts : List Node := []

namespace Branches

def push (b : Branches) (n : Node) : Branches := { b with parts := n :: b.parts }

def part (b : Branches) (stop : Place) : Node :=
  match b.parts with
  | [] => .empty ⟨b.partOrigin, stop⟩
  | [n] => n
  | ns => .sequence ⟨b.partOrigin, stop⟩ ns.reverse

def node (b : Branches) (stop : Place) : Node :=
  match b.finished with
  | [] => b.part stop
  | ns => .choice ⟨b.origin, stop⟩ (ns.reverse ++ [b.part stop])

/-- Ends a branch at one place, and starts the next at another. -/
def split (b : Branches) (stop start : Place) : Branches :=
  { origin := b.origin, finished := b.part stop :: b.finished, partOrigin := start }

end Branches

structure OpenGroup where
  mark : Span
  noted : Bool
  changes : ModeChanges
  spaced : Bool
  around : Branches

/-- The branches in reading, the open groups around them, the closest one first, and the names that
groups have been given. -/
structure Parser where
  cursor : Cursor
  branches : Branches
  groups : List OpenGroup := []
  names : List (String × Span) := []

namespace Parser

def pushed (p : Parser) (n : Node) (c : Cursor) : Parser :=
  { p with cursor := c, branches := p.branches.push n }

/-- Whether white space says nothing after some changes. -/
def spacedAfter (spaced : Bool) (changes : ModeChanges) : Bool :=
  (changes.lookup .spaced).getD spaced

/-- Opens a group whose content starts at a cursor. -/
def openGroup (p : Parser) (mark : Span) (noted : Bool) (changes : ModeChanges) (c : Cursor) :
    Parser :=
  { p with
    cursor := { c with spaced := spacedAfter c.spaced changes }
    branches := { origin := c.place }
    groups := ⟨mark, noted, changes, c.spaced, p.branches⟩ :: p.groups }

/-- The letters of modes, up to a colon or a closing parenthesis. Those behind a hyphen are switched
off. -/
structure ModeList where
  changes : List (Mode × Bool × Span) := []
  negation : Option Span := none
  dangling : Option Span := none

def ModeList.add (l : ModeList) (x : Char) (span : Span) : Except Fault ModeList :=
  if x = '-' then
    match l.negation with
    | some earlier => .error ⟨.negationRepeated, span, some earlier⟩
    | none => .ok { l with negation := some span, dangling := some span }
  else match Mode.ofLetter? x with
    | none => fail .modeUnknown span
    | some m =>
      match l.changes.lookup m with
      | some (_, earlier) => .error ⟨.modeRepeated, span, some earlier⟩
      | none => .ok { l with
          changes := l.changes ++ [(m, l.negation.isNone, span)], dangling := none }

/-- Reads modes, and stops at the colon or the closing parenthesis behind them. -/
def readModes (c : Cursor) (l : ModeList) : List Char → Except Fault (ModeChanges × Cursor)
  | [] => fail .modeCut c.here
  | x :: rest =>
    if x = ':' || x = ')' then
      match l.dangling with
      | some span => fail .negationDangling span
      | none => .ok (l.changes.map fun (m, on, _) => (m, on), c)
    else do
      let l ← l.add x c.charSpan
      readModes c.bump l rest

def isNameStart (c : Char) : Bool := c = '_' || isAlphabetic c

def isNameChar (c : Char) : Bool :=
  c = '_' || c = '.' || c = '[' || c = ']' || isAlphabetic c || isNumeric c

def readName (c : Cursor) : Except Fault (String × Span × Cursor) :=
  match c.head? with
  | none => fail .nameCut c.here
  | some x =>
    let name := if isNameStart x then c.rest.takeWhile isNameChar else []
    let d := c.skip name.length
    match d.head? with
    | none => fail .nameCut d.here
    | some '>' =>
      if name = [] then fail .nameEmpty c.here
      else .ok (String.ofList name, c.spanTo d, d.bump)
    | some _ => fail .nameInvalid d.charSpan

def openNamed (p : Parser) (mark : Span) (c : Cursor) : Except Fault Parser := do
  let (name, span, d) ← readName c
  match p.names.lookup name with
  | some earlier => .error ⟨.nameRepeated, span, some earlier⟩
  | none => .ok ({ p with names := (name, span) :: p.names }.openGroup mark true [] d)

/-- Opens a group of modes, or switches modes for the rest of the group around them. -/
def openModes (p : Parser) (mark : Span) (c d : Cursor) : Except Fault Parser := do
  if d.atEnd then fail .groupUnclosed mark
  let (changes, e) ← readModes d {} d.rest
  let f := e.bump
  if e.isAt ':' then .ok (p.openGroup mark false changes f)
  else if changes = [] then fail .repetitionMissing c.here
  else
    .ok (p.pushed (.modes ⟨mark.start, f.place⟩ changes)
      { f with spaced := spacedAfter f.spaced changes })

def readOpening (p : Parser) (c : Cursor) : Except Fault Parser :=
  let mark := c.charSpan
  let d := c.next
  match ["?=", "?!", "?<=", "?<!"].findSome? d.behind? with
  | some e => fail .lookAround (c.spanTo e)
  | none =>
    match (d.behind? "?P<" <|> d.behind? "?<"), d.behind? "?" with
    | some e, _ => openNamed p mark e
    | none, some e => openModes p mark d e
    | none, none => .ok (p.openGroup mark true [] d)

def readClosing (p : Parser) (c : Cursor) : Except Fault Parser :=
  match p.groups with
  | [] => fail .groupUnopened c.charSpan
  | g :: rest =>
    let d := c.bump
    let n := Node.group ⟨g.mark.start, d.place⟩ g.noted g.changes (p.branches.node c.place)
    .ok { p with
      cursor := { d with spaced := g.spaced }, branches := g.around.push n, groups := rest }

/-- The part that a repetition at a cursor is about, and the parts before it. -/
def repeated (p : Parser) (c : Cursor) : Except Fault (Node × List Node) :=
  match p.branches.parts with
  | [] => fail .repetitionMissing c.here
  | .empty _ :: _ => fail .repetitionMissing c.here
  | .modes .. :: _ => fail .repetitionMissing c.here
  | n :: ns => .ok (n, ns)

/-- Puts a repetition in the place of the part that it is about. -/
def repeatPart (p : Parser) (n : Node) (before : List Node) (least : Nat) (most : Option Nat)
    (c : Cursor) : Parser :=
  { p with
    cursor := c
    branches := { p.branches with
      parts := .repetition ⟨n.span.start, c.place⟩ n least most :: before } }

/-- Reads a sign of repetition. A question mark behind it asks for the shortest match. -/
def readSign (p : Parser) (c : Cursor) (least : Nat) (most : Option Nat) : Except Fault Parser := do
  let (n, before) ← repeated p c
  let d := c.bump
  .ok (p.repeatPart n before least most (if d.isAt '?' then d.bump else d))

/-- Reads a number with white space around it. What is wrong with it counts only later. -/
def readNumber (c : Cursor) : Except Fault Nat × Cursor :=
  let d := (c.collect isWhiteSpace).2
  let (digits, e) := d.collect Char.isDigit
  let n := digits.foldl (fun n x => n * 10 + (x.toNat - 0x30)) 0
  let number :=
    if digits = [] then fail .countMissing (d.spanTo e)
    else if n < 4294967296 then .ok n
    else fail .countTooLarge (d.spanTo e)
  (number, (e.collect isWhiteSpace).2)

/-- Reads the counts of a repetition up to the closing brace: one number, or two with a comma, of
which the second may be missing. -/
def readCounts (c : Cursor) : Except Fault (Nat × Option Nat × Cursor) := do
  let cut (d : Cursor) : Except Fault (Nat × Option Nat × Cursor) :=
    fail .countUnclosed (c.spanTo d)
  let d := c.next
  if d.atEnd then cut d
  else
    let (least, e) := readNumber d
    if e.atEnd then cut e
    else if e.isAt ',' then
      let f := e.next
      if f.atEnd then cut f
      else
        let least ← least
        if f.isAt '\x7d' then .ok (least, none, f)
        else
          let (most, g) := readNumber f
          let most ← most
          if g.isAt '\x7d' then .ok (least, some most, g) else cut g
    else
      let least ← least
      if e.isAt '\x7d' then .ok (least, some least, e) else cut e

def readCounted (p : Parser) (c : Cursor) : Except Fault Parser := do
  let (n, before) ← repeated p c
  let (least, most, d) ← readCounts c
  let e := d.next
  let f := if e.isAt '?' then e.bump else e
  if most.any (· < least) then fail .countReversed (c.spanTo f)
  .ok (p.repeatPart n before least most f)

def readAtom (c : Cursor) (x : Char) : Except Fault (Atom × Cursor) :=
  match x with
  | '\\' => Escape.read c
  | '.' => .ok (.anyChar, c.bump)
  | '^' => .ok (.anchor .lineStart, c.bump)
  | '$' => .ok (.anchor .lineEnd, c.bump)
  | _ => .ok (.literal ⟨x, false⟩, c.bump)

/-- Reads one part of a pattern. It starts with a character that at most so many others follow. -/
def step (p : Parser) (n : Nat) (c : Cursor) (x : Char) : Except Fault Parser :=
  match x with
  | '(' => readOpening p c
  | ')' => readClosing p c
  | '|' =>
    let d := c.bump
    .ok { p with cursor := d, branches := p.branches.split c.place d.place }
  | '[' => (readBracket n c).map fun (b, d) => p.pushed (.bracket b) d
  | '?' => readSign p c 0 (some 1)
  | '*' => readSign p c 0 none
  | '+' => readSign p c 1 none
  | '\x7b' => readCounted p c
  | _ => (readAtom c x).map fun (a, d) => p.pushed (.atom (c.spanTo d) a) d

def finish (p : Parser) (c : Cursor) : Except Fault Node :=
  match p.groups with
  | [] => .ok (p.branches.node c.place)
  | g :: _ => fail .groupUnclosed g.mark

/-- Reads up to the end. Each part takes a character away, so that as many parts as there are
characters are enough. -/
def run : Nat → Parser → Except Fault Node
  | 0, p => p.finish p.cursor
  | n + 1, p =>
    let c := p.cursor.skipGap
    match c.head? with
    | none => p.finish c
    | some x =>
      match p.step n c x with
      | .error f => .error f
      | .ok q => run n q

end Parser

def Node.read (pattern : String) : Except Fault Node := do
  let n ← Parser.run pattern.length
    { cursor := { rest := pattern.toList }, branches := { origin := {} } }
  match n.tooDeep? nestLimit with
  | some span => fail .nestedTooDeep span
  | none => .ok n

end Pattern
end Lexicon
