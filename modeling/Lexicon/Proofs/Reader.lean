import Lexicon.Text.Reader
import Mathlib.Data.List.Basic

/-! A reader that undoes a spelling reads back what was written and loses no byte. Bytes are then
well formed if and only if they spell some text, which is the one that is read. -/

namespace Lexicon
namespace Reader

theorem scan_induction (r : Reader) {motive : Bytes → Prop} (nil : motive [])
    (cons : ∀ b rest, motive (r.read b rest).2 → motive (b :: rest)) (bs : Bytes) : motive bs := by
  induction hn : bs.length using Nat.strongRecOn generalizing bs with
  | _ n ih =>
    cases bs with
    | nil => exact nil
    | cons b rest =>
      have hle := r.length_read_le b rest
      rw [List.length_cons] at hn
      exact cons b rest (ih _ (by omega) _ rfl)

/-- Items without a malformed one are those of a text. -/
theorem eq_map_scalar {items : List Item} (h : items.all Item.isScalar) :
    items = (items.map Item.char).map .scalar := by
  induction items with
  | nil => rfl
  | cons item items ih =>
    obtain ⟨hitem, hitems⟩ : item.isScalar ∧ items.all Item.isScalar := by simpa using h
    rw [List.map_cons, List.map_cons, ← ih hitems]
    cases item with
    | scalar c => rfl
    | malformed => cases hitem

/-- The bytes of each item are known, those of a character are read as that character whatever comes
after them, and reading only parts the bytes. -/
structure Undoes (r : Reader) (bytesOf : Item → Bytes) : Prop where
  read_scalar : ∀ c, ∃ b tail, bytesOf (.scalar c) = b :: tail ∧
    ∀ rest, r.read b (tail ++ rest) = (.scalar c, rest)
  bytesOf_read : ∀ b rest, bytesOf (r.read b rest).1 ++ (r.read b rest).2 = b :: rest

namespace Undoes
variable {r : Reader} {bytesOf : Item → Bytes} (h : r.Undoes bytesOf)
include h

theorem scan_scalar_append (c : Char) (bs : Bytes) :
    r.scan (bytesOf (.scalar c) ++ bs) = .scalar c :: r.scan bs := by
  obtain ⟨b, tail, hbytes, hread⟩ := h.read_scalar c
  rw [hbytes, List.cons_append, scan_cons, hread]

theorem scan_spelled_append (cs : List Char) (bs : Bytes) :
    r.scan ((cs.map .scalar).flatMap bytesOf ++ bs) = cs.map .scalar ++ r.scan bs := by
  induction cs with
  | nil => rfl
  | cons c cs ih =>
    rw [List.map_cons, List.flatMap_cons, List.append_assoc, h.scan_scalar_append, ih]
    rfl

theorem scan_spelled (cs : List Char) :
    r.scan ((cs.map .scalar).flatMap bytesOf) = cs.map .scalar := by
  have hall := h.scan_spelled_append cs []
  rwa [List.append_nil, scan_nil, List.append_nil] at hall

theorem isValid_spelled (cs : List Char) : r.isValid ((cs.map .scalar).flatMap bytesOf) := by
  simp [isValid, h.scan_spelled, Item.isScalar]

theorem decode_spelled (cs : List Char) :
    r.decode ((cs.map .scalar).flatMap bytesOf) = String.ofList cs := by
  have hchar : Item.char ∘ Item.scalar = id := rfl
  rw [decode, h.scan_spelled, List.map_map, hchar, List.map_id]

/-- No byte is lost in reading. -/
theorem flatMap_bytesOf_scan (bs : Bytes) : (r.scan bs).flatMap bytesOf = bs := by
  induction bs using r.scan_induction with
  | nil => rw [scan_nil, List.flatMap_nil]
  | cons b rest ih =>
    rw [scan_cons, List.flatMap_cons, ih]
    exact h.bytesOf_read b rest

theorem spelled_of_isValid {bs : Bytes} (hvalid : r.isValid bs) :
    ((r.decode bs).toList.map .scalar).flatMap bytesOf = bs := by
  rw [decode, String.toList_ofList, ← eq_map_scalar hvalid, h.flatMap_bytesOf_scan]

end Undoes
end Reader
end Lexicon
