/-! Byte strings read as characters, with the malformed runs between them. -/

namespace Lexicon

/-- File contents, path names and command-line words before any decoding. -/
abbrev Bytes := List UInt8

/-- One piece of a decoded byte string: a character, or bytes that spell none. -/
inductive Item where
  | scalar (c : Char)
  | malformed (bytes : Bytes)
  deriving Repr, DecidableEq

namespace Item

/-- Malformed bytes are read as the replacement character. -/
def char : Item → Char
  | scalar c => c
  | malformed _ => '\uFFFD'

def isScalar : Item → Bool
  | scalar _ => true
  | malformed _ => false

end Item

/-- A character encoding, read one item at a time from the front. -/
structure Reader where
  /-- The first item of the byte string `b :: rest`, and the bytes after it. -/
  read : UInt8 → Bytes → Item × Bytes
  length_read_le : ∀ b rest, (read b rest).2.length ≤ rest.length

namespace Reader

/-- Puts the items of a byte string behind those already found, which are held in reverse. -/
def scanFrom (r : Reader) (found : List Item) : Bytes → List Item
  | [] => found.reverse
  | b :: rest => r.scanFrom ((r.read b rest).1 :: found) (r.read b rest).2
termination_by bs => bs.length
decreasing_by simpa using Nat.lt_succ_of_le (r.length_read_le b rest)

def scan (r : Reader) (bs : Bytes) : List Item := r.scanFrom [] bs

theorem scanFrom_eq (r : Reader) (found : List Item) (bs : Bytes) :
    r.scanFrom found bs = found.reverse ++ r.scan bs := by
  induction hn : bs.length using Nat.strongRecOn generalizing found bs with
  | _ n ih =>
    cases bs with
    | nil => simp [scan, scanFrom]
    | cons b rest =>
      have hlt : (r.read b rest).2.length < n := by
        have := r.length_read_le b rest
        simp at hn
        omega
      rw [scan, scanFrom, scanFrom, ih _ hlt _ _ rfl, ih _ hlt [(r.read b rest).1] _ rfl]
      simp

@[simp] theorem scan_nil (r : Reader) : r.scan [] = [] := by simp [scan, scanFrom]

theorem scan_cons (r : Reader) (b : UInt8) (rest : Bytes) :
    r.scan (b :: rest) = (r.read b rest).1 :: r.scan (r.read b rest).2 := by
  rw [scan, scanFrom, scanFrom_eq]
  rfl

/-- Every malformed run becomes one replacement character. -/
def decode (r : Reader) (bs : Bytes) : String := String.ofList ((r.scan bs).map Item.char)

def isValid (r : Reader) (bs : Bytes) : Bool := (r.scan bs).all Item.isScalar

/-- The text that the bytes spell, if they are well formed. -/
def decode? (r : Reader) (bs : Bytes) : Option String :=
  if r.isValid bs then some (r.decode bs) else none

end Reader
end Lexicon
