import Lexicon.Text.Utf8

/-! Texts without what a terminal would take for a command. -/

namespace Lexicon

inductive TerminalMode where
  | text
  /-- Behind an escape character, and behind the intermediate characters of an escape sequence. -/
  | escape
  | escapeTail
  /-- Within a control sequence, which a letter ends. -/
  | control
  /-- Within the parameters of a device command, behind its intermediate characters, and within its
  text, which is also where a malformed one is passed over. -/
  | device
  | deviceParameters
  | deviceTail
  | deviceBody
  /-- Within an operating system command. -/
  | command
  /-- Within a string that no terminal shows. -/
  | string
  deriving Repr, DecidableEq

namespace TerminalMode

/-- The characters that end any sequence, but for the one that starts another. -/
def isCancel (c : Char) : Bool := c = '\x18' || c = '\x1a'

def isBlankControl (c : Char) : Bool := c = '\t' || c = '\n' || c = '\x0c' || c = '\r'

def isBetween (low high : Nat) (c : Char) : Bool := low ≤ c.toNat && c.toNat ≤ high

/-- Whether the byte that ends strings is among those of a character. -/
def holdsTerminator (c : Char) : Bool := (Utf8.encode (String.singleton c)).contains 0x9C

/-- The mode behind a character that follows an escape character. -/
def afterEscape (c : Char) : TerminalMode :=
  if c = '[' then control
  else if c = ']' then command
  else if c = 'P' then device
  else if c = 'X' || c = '^' || c = '_' then string
  else if isBetween 0x20 0x2F c then escapeTail
  else if isBetween 0x30 0x7E c then text
  else escape

def next (m : TerminalMode) (c : Char) : TerminalMode :=
  if c = '\x1b' then escape
  else if isCancel c then text
  else match m with
    | text => text
    | escape => afterEscape c
    | escapeTail => if isBetween 0x30 0x7E c then text else escapeTail
    | control => if isBetween 0x40 0x7E c then text else control
    | device =>
      if isBetween 0x20 0x2F c then deviceTail
      else if isBetween 0x30 0x3F c then deviceParameters
      else if isBetween 0x40 0x7E c then deviceBody
      else device
    | deviceParameters =>
      if isBetween 0x20 0x2F c then deviceTail
      else if isBetween 0x3C 0x7E c then deviceBody
      else deviceParameters
    | deviceTail => if isBetween 0x30 0x7E c then deviceBody else deviceTail
    | deviceBody => if holdsTerminator c then text else deviceBody
    | command => if c = '\x07' then text else command
    | string => if holdsTerminator c then text else string

/-- Whether a character is shown. A tab or a line break is carried out even within a sequence. -/
def shows (m : TerminalMode) (c : Char) : Bool :=
  match m with
  | text => isBlankControl c || 0x20 ≤ c.toNat && c ≠ '\x7f'
  | escape => isBlankControl c
  | escapeTail => isBlankControl c
  | control => isBlankControl c
  | _ => false

/-- What is shown of some characters. Anything that is shown ends a sequence. -/
def shown (m : TerminalMode) : List Char → List Char
  | [] => []
  | c :: cs => if m.shows c then c :: text.shown cs else (m.next c).shown cs

/-- What a stream lets through of some characters. A tab or a line break interrupts a sequence,
which goes on at the next control character unless a character beyond ASCII comes before. -/
def streamed (m : TerminalMode) (interrupted : Bool) : List Char → List Char
  | [] => []
  | c :: cs =>
    if (if interrupted then text else m).shows c then
      c :: (if c.toNat < 0x80 then m else text).streamed true cs
    else (m.next c).streamed false cs

end TerminalMode

/-- What a terminal shows of a text: neither control characters nor what they start. -/
def plainText (s : String) : String := String.ofList (TerminalMode.text.shown s.toList)

/-- What a stream that leads to no terminal lets through of a text. -/
def plainStream (s : String) : String :=
  String.ofList (TerminalMode.text.streamed false s.toList)

end Lexicon
