import Lexicon.Text.Reader

/-! UTF-16 in both byte orders. -/

namespace Lexicon
namespace Utf16

inductive ByteOrder where
  | little
  | big
  deriving Repr, DecidableEq

def ByteOrder.unit : ByteOrder → UInt8 → UInt8 → Nat
  | .little, a, b => a.toNat + 256 * b.toNat
  | .big, a, b => 256 * a.toNat + b.toNat

def ByteOrder.bytes : ByteOrder → Nat → Bytes
  | .little, u => [UInt8.ofNat (u % 256), UInt8.ofNat (u / 256)]
  | .big, u => [UInt8.ofNat (u / 256), UInt8.ofNat (u % 256)]

def isHighSurrogate (u : Nat) : Bool := 0xD800 ≤ u && u ≤ 0xDBFF
def isLowSurrogate (u : Nat) : Bool := 0xDC00 ≤ u && u ≤ 0xDFFF

/-- Reads one code unit, or two that form a surrogate pair. An unpaired surrogate, an odd byte at
the end and a pair cut short by the end are malformed. -/
def read (o : ByteOrder) (a : UInt8) : Bytes → Item × Bytes
  | [] => (.malformed [a], [])
  | b :: rest =>
    let u := o.unit a b
    if isHighSurrogate u then
      match rest with
      | c :: d :: rest' =>
        let v := o.unit c d
        if isLowSurrogate v then
          (.scalar (Char.ofNat (0x10000 + (u - 0xD800) * 0x400 + (v - 0xDC00))), rest')
        else (.malformed [a, b], rest)
      | cut => (.malformed (a :: b :: cut), [])
    else if isLowSurrogate u then (.malformed [a, b], rest)
    else (.scalar (Char.ofNat u), rest)

theorem length_read_le (o : ByteOrder) (a : UInt8) (rest : Bytes) :
    (read o a rest).2.length ≤ rest.length := by
  unfold read
  split
  · simp
  · dsimp only
    split
    · split
      · split
        · simp
          omega
        · simp
      · simp
    · split <;> simp

/-- The code units of a character: one, or a surrogate pair from U+10000 on. -/
def units (c : Char) : List Nat :=
  if c.toNat < 0x10000 then [c.toNat]
  else [0xD800 + (c.toNat - 0x10000) / 0x400, 0xDC00 + (c.toNat - 0x10000) % 0x400]

def encode (o : ByteOrder) (s : String) : Bytes :=
  s.toList.flatMap fun c => (units c).flatMap o.bytes

end Utf16

def utf16 (o : Utf16.ByteOrder) : Reader := ⟨Utf16.read o, Utf16.length_read_le o⟩

end Lexicon
