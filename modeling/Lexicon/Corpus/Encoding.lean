import Lexicon.Text.Utf16
import Lexicon.Text.Utf8
import Lexicon.Text.Windows1252

/-! Detection of the encoding of a corpus, and decoding that reports what it had to replace. -/

namespace Lexicon

inductive Encoding where
  | utf8
  | utf16 (order : Utf16.ByteOrder)
  | windows1252
  deriving Repr, DecidableEq

namespace Encoding

def name : Encoding → String
  | utf8 => "UTF-8"
  | utf16 .little => "UTF-16LE"
  | utf16 .big => "UTF-16BE"
  | windows1252 => "windows-1252"

def reader : Encoding → Reader
  | utf8 => Lexicon.utf8
  | utf16 order => Lexicon.utf16 order
  | windows1252 => Lexicon.windows1252

/-- The bytes of a text, if each of its characters has some. -/
def encode? : Encoding → String → Option Bytes
  | utf8, s => some (Utf8.encode s)
  | utf16 order, s => some (Utf16.encode order s)
  | windows1252, s => Windows1252.encode? s

end Encoding

inductive Confidence where
  | certain
  | mixed
  | guessed
  deriving Repr, DecidableEq

def Confidence.text : Confidence → String
  | certain => "1.0"
  | mixed => "0.5"
  | guessed => "0.8"

structure Detection where
  encoding : Encoding := .utf8
  confidence : Confidence := .certain
  /-- The length of the byte order mark, which is no part of the text. -/
  markLength : Nat := 0
  deriving Repr, DecidableEq

namespace Detection

def ofMark? : Bytes → Option Detection
  | 0xEF :: 0xBB :: 0xBF :: _ => some ⟨.utf8, .certain, 3⟩
  | 0xFF :: 0xFE :: _ => some ⟨.utf16 .little, .certain, 2⟩
  | 0xFE :: 0xFF :: _ => some ⟨.utf16 .big, .certain, 2⟩
  | _ => none

def sampleLength : Nat := 65536

/-- Whether bytes are the start of well-formed UTF-8: no character but the last may be malformed,
and that one only for being cut short. -/
def startsUtf8 (bs : Bytes) : Bool :=
  match (Lexicon.utf8.scan bs).reverse with
  | [] => true
  | .malformed (b :: _) :: before => (Utf8.lead b).isSome && before.all Item.isScalar
  | last :: before => last.isScalar && before.all Item.isScalar

/-- The encoding of bytes that spell no character of UTF-8 beyond ASCII. Only a fault within the
sample speaks against UTF-8, and only if bytes are left behind it. -/
def guess (content : Bytes) : Encoding :=
  if sampleLength < content.length && startsUtf8 (content.take sampleLength) then .utf8
  else .windows1252

/-- A byte order mark decides; then valid UTF-8, then any sign of UTF-8, then a guess. -/
def ofContent (content : Bytes) : Detection :=
  match ofMark? content with
  | some d => d
  | none =>
    if Lexicon.utf8.isValid content then {}
    else if Utf8.hasNonAscii content then { confidence := .mixed }
    else { encoding := guess content, confidence := .guessed }

theorem markLength_le_of_ofMark? {content : Bytes} {d : Detection} (h : ofMark? content = some d) :
    d.markLength ≤ content.length := by
  unfold ofMark? at h
  split at h
  · obtain rfl := Option.some.inj h
    simp
  · obtain rfl := Option.some.inj h
    simp
  · obtain rfl := Option.some.inj h
    simp
  · cases h

/-- A mark is only detected where it stands. -/
theorem markLength_ofContent_le (content : Bytes) :
    (ofContent content).markLength ≤ content.length := by
  unfold ofContent
  split
  next h => exact markLength_le_of_ofMark? h
  next =>
    split
    · exact Nat.zero_le _
    · split <;> exact Nat.zero_le _

end Detection

inductive Warning where
  | invalidUtf8 (offset : Nat)
  | malformed (encoding : Encoding)
  deriving Repr, DecidableEq

def Warning.message : Warning → String
  | invalidUtf8 offset => s!"Invalid UTF-8 at byte {offset}, using lossy conversion"
  | malformed encoding => s!"Malformed {encoding.name} sequences in corpus, using lossy conversion"

structure Decoded where
  text : String
  warning : Option Warning
  deriving Repr, DecidableEq

/-- Decodes what follows the byte order mark, unless the content is shorter than the mark. -/
def decode (d : Detection) (content : Bytes) : Option Decoded :=
  if content.length < d.markLength then none
  else
    let body := content.drop d.markLength
    let warning := if d.encoding.reader.isValid body then none
      else if d.encoding = .utf8 then some (.invalidUtf8 (Utf8.validLength body + d.markLength))
      else some (.malformed d.encoding)
    some ⟨d.encoding.reader.decode body, warning⟩

theorem isSome_decode {d : Detection} {content : Bytes} (h : d.markLength ≤ content.length) :
    (decode d content).isSome := by
  simp [decode, Nat.not_lt.2 h]

def Decoded.ofContent (content : Bytes) : Decoded :=
  (decode (.ofContent content) content).get
    (isSome_decode (Detection.markLength_ofContent_le content))

end Lexicon
