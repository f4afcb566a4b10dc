import Lexicon.Text.Reader

/-! UTF-8, after Unicode Table 3-7. -/

namespace Lexicon
namespace Utf8

/-- What a leading byte announces: how many bytes follow, and the range of the first of them. -/
structure Lead where
  more : Nat
  low : UInt8
  high : UInt8

/-- The rows of Unicode Table 3-7 for sequences of two to four bytes, by leading byte. -/
def lead (b : UInt8) : Option Lead :=
  if b < 0xC2 then none
  else if b < 0xE0 then some ⟨1, 0x80, 0xBF⟩
  else if b = 0xE0 then some ⟨2, 0xA0, 0xBF⟩
  else if b = 0xED then some ⟨2, 0x80, 0x9F⟩
  else if b < 0xF0 then some ⟨2, 0x80, 0xBF⟩
  else if b = 0xF0 then some ⟨3, 0x90, 0xBF⟩
  else if b < 0xF4 then some ⟨3, 0x80, 0xBF⟩
  else if b = 0xF4 then some ⟨3, 0x80, 0x8F⟩
  else none

def isContinuation (b : UInt8) : Bool := 0x80 ≤ b && b ≤ 0xBF

/-- The longest run of continuation bytes at the front, up to `n` of them. -/
def continuation : Nat → Bytes → Bytes
  | n + 1, b :: bs => if isContinuation b then b :: continuation n bs else []
  | _, _ => []

/-- The bytes after a leading byte that can belong to its sequence. -/
def Lead.follow (l : Lead) : Bytes → Bytes
  | [] => []
  | b :: bs => if l.low ≤ b && b ≤ l.high then b :: continuation (l.more - 1) bs else []

/-- The code point spelled by a leading byte and the continuation bytes after it. -/
def codePoint (b : UInt8) (tail : Bytes) : Nat :=
  tail.foldl (fun v c => v * 64 + (c.toNat - 0x80)) (b.toNat % Nat.pow 2 (6 - tail.length))

/-- Reads one character, or the longest run that starts a well-formed sequence without completing
it. -/
def read (b : UInt8) (rest : Bytes) : Item × Bytes :=
  if b < 0x80 then (.scalar (Char.ofNat b.toNat), rest)
  else match lead b with
    | none => (.malformed [b], rest)
    | some l =>
      let tail := l.follow rest
      let item := if tail.length = l.more then .scalar (Char.ofNat (codePoint b tail))
        else .malformed (b :: tail)
      (item, rest.drop tail.length)

theorem length_read_le (b : UInt8) (rest : Bytes) : (read b rest).2.length ≤ rest.length := by
  unfold read
  split
  · simp
  · split <;> simp

end Utf8

def utf8 : Reader := ⟨Utf8.read, Utf8.length_read_le⟩

namespace Utf8

def encode (s : String) : Bytes := s.toList.flatMap String.utf8EncodeChar

/-- The number of bytes before the first malformed run. -/
def validLength (bs : Bytes) : Nat :=
  ((utf8.scan bs).takeWhile Item.isScalar).foldl (fun n item => n + item.char.utf8Size) 0

def isMultibyte : Item → Bool
  | .scalar c => 0x80 ≤ c.toNat
  | .malformed _ => false

/-- Whether some character of two to four bytes is spelled among the bytes. -/
def hasNonAscii (bs : Bytes) : Bool := (utf8.scan bs).any isMultibyte

end Utf8
end Lexicon
