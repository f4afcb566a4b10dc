import Lexicon.Pattern.Cursor
import Lexicon.Pattern.Node

/-! What a backslash starts. -/

namespace Lexicon
namespace Pattern
namespace Escape

def isHexDigit (c : Char) : Bool :=
  c.isDigit || ('a' ≤ c && c ≤ 'f') || ('A' ≤ c && c ≤ 'F')

def hexValue (c : Char) : Nat :=
  if c.isDigit then c.toNat - 0x30 else (c.toNat - 0x41) % 32 + 10

/-- The character with a number written in hexadecimal digits, if there is one. -/
def scalar? (digits : List Char) : Option Char :=
  let n := digits.foldl (fun n c => n * 16 + hexValue c) 0
  if n.isValidChar then some (Char.ofNat n) else none

/-- The hexadecimal digits behind an escape letter without braces. -/
def hexLength : Char → Nat
  | 'x' => 2
  | 'u' => 4
  | _ => 8

def readHexDigits (c : Cursor) : Nat → Except Fault (List Char × Cursor)
  | 0 => .ok ([], c)
  | n + 1 =>
    match c.head? with
    | none => fail .escapeCut c.here
    | some x =>
      if isHexDigit x then do
        let (xs, d) ← readHexDigits c.next n
        .ok (x :: xs, d)
      else fail .hexDigit c.charSpan

def readHexBraces (c : Cursor) : Except Fault (Char × Cursor) :=
  let (digits, d) := c.next.collect isHexDigit
  match d.head? with
  | none => fail .escapeCut (c.spanTo d)
  | some '\x7d' =>
    if digits = [] then fail .hexMissing (c.spanTo d.next)
    else match scalar? digits with
      | some x => .ok (x, d.next)
      | none => fail .hexScalar (c.bump.spanTo d)
  | some _ => fail .hexDigit d.charSpan

def readHex (c : Cursor) (letter : Char) : Except Fault (Literal × Cursor) := do
  let d := c.next
  if d.atEnd then fail .escapeCut d.here
  else if d.isAt '\x7b' then
    let (x, e) ← readHexBraces d
    .ok (⟨x, false⟩, e)
  else
    let (digits, e) ← readHexDigits d (hexLength letter)
    match scalar? digits with
    | some x => .ok (⟨x, letter = 'x'⟩, e)
    | none => fail .hexScalar (d.spanTo e)

/-- Parts the text between braces at a sign of equality or a colon. -/
def propertyName (text : List Char) : PropertyName :=
  let part (sign : List Char) : Option PropertyName :=
    (List.range text.length).findSome? fun n =>
      if sign.isPrefixOf (text.drop n) then
        some (.valued (String.ofList (text.take n)) (String.ofList (text.drop (n + sign.length))))
      else none
  (part ['!', '='] <|> part [':'] <|> part ['=']).getD (.named (String.ofList text))

def readProperty (c : Cursor) : Except Fault (PropertyName × Cursor) :=
  let d := c.next
  match d.head? with
  | none => fail .escapeCut d.here
  | some '\x7b' =>
    let (text, e) := d.next.collect (· ≠ '\x7d')
    if e.atEnd then fail .escapeCut e.here else .ok (propertyName text, e.bump)
  | some '\\' => fail .propertyInvalid d.charSpan
  | some x => .ok (.named (String.singleton x), d.next)

def shorthand? : Char → Option SetName
  | 'd' => some (.shorthand .digit false)
  | 'D' => some (.shorthand .digit true)
  | 's' => some (.shorthand .space false)
  | 'S' => some (.shorthand .space true)
  | 'w' => some (.shorthand .word false)
  | 'W' => some (.shorthand .word true)
  | _ => none

/-- Whether a character stands for itself behind a backslash. -/
def isPlain (c : Char) : Bool := c.toNat < 0x80 && !c.isAlphanum && c ≠ '<' && c ≠ '>'

/-- What a single letter behind a backslash stands for. -/
def letter? : Char → Option Atom
  | 'a' => some (.literal ⟨'\x07', false⟩)
  | 'f' => some (.literal ⟨'\x0c', false⟩)
  | 't' => some (.literal ⟨'\t', false⟩)
  | 'n' => some (.literal ⟨'\n', false⟩)
  | 'r' => some (.literal ⟨'\r', false⟩)
  | 'v' => some (.literal ⟨'\x0b', false⟩)
  | 'A' => some (.anchor .textStart)
  | 'z' => some (.anchor .textEnd)
  | 'b' => some (.anchor .edge)
  | 'B' => some (.anchor .noEdge)
  | '<' => some (.anchor .wordStart)
  | '>' => some (.anchor .wordEnd)
  | _ => none

def edgeNamed? : String → Option Anchor
  | "start" => some .wordStart
  | "end" => some .wordEnd
  | "start-half" => some .noWordBefore
  | "end-half" => some .noWordAfter
  | _ => none

def isEdgeChar (c : Char) : Bool := c.isAlpha || c = '-'

/-- Reads the name of an edge in braces, at the opening one. Braces that hold something else are
left for a repetition. -/
def readEdge (start c : Cursor) : Except Fault (Anchor × Cursor) :=
  let d := c.next
  match d.head? with
  | none => fail .edgeCut (start.spanTo d)
  | some x =>
    if isEdgeChar x then
      let (name, e) := d.collect isEdgeChar
      if e.isAt '\x7d' then
        match edgeNamed? (String.ofList name) with
        | some a => .ok (a, e.bump)
        | none => fail .edgeUnknown (d.spanTo e)
      else fail .edgeUnclosed (c.spanTo e)
    else .ok (.edge, c)

def read (c : Cursor) : Except Fault (Atom × Cursor) :=
  let d := c.bump
  match d.head? with
  | none => fail .escapeCut (c.spanTo d)
  | some x =>
    let e := d.bump
    if x.isDigit then fail .backreference (c.spanTo e)
    else if x = 'x' || x = 'u' || x = 'U' then
      (readHex d x).map fun (l, e) => (.literal l, e)
    else if x = 'p' || x = 'P' then
      (readProperty d).map fun (p, e) => (.named (.property p (x = 'P')), e)
    else if isPlain x then .ok (.literal ⟨x, false⟩, e)
    else match shorthand? x, letter? x with
      | some s, _ => .ok (.named s, e)
      | none, some (.anchor .edge) =>
        if e.isAt '\x7b' then (readEdge c e).map fun (a, e) => (.anchor a, e)
        else .ok (.anchor .edge, e)
      | none, some a => .ok (a, e)
      | none, none => fail .escapeUnknown (c.spanTo e)

end Escape
end Pattern
end Lexicon
