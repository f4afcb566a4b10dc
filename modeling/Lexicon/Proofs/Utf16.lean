import Lexicon.Text.Utf16
import Lexicon.Proofs.Utf8

/-! Reading UTF-16 undoes writing it, and loses no byte, in either byte order. A pair of surrogates
spells a character that no single unit does. -/

namespace Lexicon
namespace Utf16

section Units
variable (o : ByteOrder)

theorem unit_lt (a b : UInt8) : o.unit a b < 0x10000 := by
  have ha := a.toNat_lt
  have hb := b.toNat_lt
  cases o <;> simp only [ByteOrder.unit] <;> omega

theorem bytes_unit (a b : UInt8) : o.bytes (o.unit a b) = [a, b] := by
  have ha := a.toNat_lt
  have hb := b.toNat_lt
  cases o with
  | little =>
    have hlow : (a.toNat + 256 * b.toNat) % 256 = a.toNat := by omega
    have hhigh : (a.toNat + 256 * b.toNat) / 256 = b.toNat := by omega
    rw [ByteOrder.unit, ByteOrder.bytes, hlow, hhigh, UInt8.ofNat_toNat, UInt8.ofNat_toNat]
  | big =>
    have hhigh : (256 * a.toNat + b.toNat) / 256 = a.toNat := by omega
    have hlow : (256 * a.toNat + b.toNat) % 256 = b.toNat := by omega
    rw [ByteOrder.unit, ByteOrder.bytes, hlow, hhigh, UInt8.ofNat_toNat, UInt8.ofNat_toNat]

theorem exists_bytes {u : Nat} (h : u < 0x10000) :
    ∃ a b, o.bytes u = [a, b] ∧ o.unit a b = u := by
  have hlow : (UInt8.ofNat (u % 256)).toNat = u % 256 := Utf8.toNat_byte (by omega)
  have hhigh : (UInt8.ofNat (u / 256)).toNat = u / 256 := Utf8.toNat_byte (by omega)
  cases o with
  | little =>
    refine ⟨_, _, rfl, ?_⟩
    rw [ByteOrder.unit, hlow, hhigh]
    omega
  | big =>
    refine ⟨_, _, rfl, ?_⟩
    rw [ByteOrder.unit, hlow, hhigh]
    omega

end Units

theorem isHighSurrogate_iff {u : Nat} : isHighSurrogate u ↔ 0xD800 ≤ u ∧ u ≤ 0xDBFF := by
  simp [isHighSurrogate]

theorem isLowSurrogate_iff {u : Nat} : isLowSurrogate u ↔ 0xDC00 ≤ u ∧ u ≤ 0xDFFF := by
  simp [isLowSurrogate]

def pairPoint (u v : Nat) : Nat := 0x10000 + (u - 0xD800) * 0x400 + (v - 0xDC00)

theorem units_pairPoint {u v : Nat} (hu : isHighSurrogate u) (hv : isLowSurrogate v) :
    units (Char.ofNat (pairPoint u v)) = [u, v] := by
  rw [isHighSurrogate_iff] at hu
  rw [isLowSurrogate_iff] at hv
  have hc : (Char.ofNat (pairPoint u v)).toNat = pairPoint u v :=
    Utf8.toNat_ofNat (by unfold pairPoint; omega)
  have hhigh : 0xD800 + (pairPoint u v - 0x10000) / 0x400 = u := by
    unfold pairPoint
    omega
  have hlow : 0xDC00 + (pairPoint u v - 0x10000) % 0x400 = v := by
    unfold pairPoint
    omega
  have hbeyond : ¬pairPoint u v < 0x10000 := by
    unfold pairPoint
    omega
  rw [units, hc, if_neg hbeyond, hhigh, hlow]

theorem units_ofNat {u : Nat} (h : u < 0x10000) (hhigh : ¬isHighSurrogate u)
    (hlow : ¬isLowSurrogate u) : units (Char.ofNat u) = [u] := by
  rw [isHighSurrogate_iff] at hhigh
  rw [isLowSurrogate_iff] at hlow
  have hc : (Char.ofNat u).toNat = u := Utf8.toNat_ofNat (by omega)
  rw [units, hc, if_pos h]

/-- The units of a character are one that is no surrogate, or a pair that spells it. -/
theorem units_cases (c : Char) :
    (∃ u, units c = [u] ∧ u < 0x10000 ∧ ¬isHighSurrogate u ∧ ¬isLowSurrogate u ∧
      Char.ofNat u = c) ∨
    ∃ u v, units c = [u, v] ∧ isHighSurrogate u ∧ isLowSurrogate v ∧
      Char.ofNat (pairPoint u v) = c := by
  have hvalid := Utf8.toNat_valid c
  by_cases h : c.toNat < 0x10000
  · refine .inl ⟨c.toNat, by rw [units, if_pos h], h, ?_, ?_, Char.ofNat_toNat c⟩
    · rw [isHighSurrogate_iff]
      omega
    · rw [isLowSurrogate_iff]
      omega
  · refine .inr ⟨_, _, by rw [units, if_neg h], ?_, ?_, ?_⟩
    · rw [isHighSurrogate_iff]
      omega
    · rw [isLowSurrogate_iff]
      omega
    · have hpoint : pairPoint (0xD800 + (c.toNat - 0x10000) / 0x400)
          (0xDC00 + (c.toNat - 0x10000) % 0x400) = c.toNat := by
        unfold pairPoint
        omega
      rw [hpoint, Char.ofNat_toNat]

section Reading
variable {o : ByteOrder} {a b : UInt8}

theorem read_unit (hhigh : ¬isHighSurrogate (o.unit a b)) (hlow : ¬isLowSurrogate (o.unit a b))
    (rest : Bytes) : read o a (b :: rest) = (.scalar (Char.ofNat (o.unit a b)), rest) := by
  unfold read
  dsimp only
  rw [if_neg hhigh, if_neg hlow]

theorem read_pair {c d : UInt8} (hhigh : isHighSurrogate (o.unit a b))
    (hlow : isLowSurrogate (o.unit c d)) (rest : Bytes) : read o a (b :: c :: d :: rest) =
      (.scalar (Char.ofNat (pairPoint (o.unit a b) (o.unit c d))), rest) := by
  rw [read, if_pos hhigh, if_pos hlow]
  rfl

end Reading

def bytesOf (o : ByteOrder) : Item → Bytes
  | .scalar c => (units c).flatMap o.bytes
  | .malformed bytes => bytes

theorem bytesOf_read (o : ByteOrder) (a : UInt8) (rest : Bytes) :
    bytesOf o (read o a rest).1 ++ (read o a rest).2 = a :: rest := by
  cases rest with
  | nil => rfl
  | cons b rest =>
    by_cases hhigh : isHighSurrogate (o.unit a b)
    · match rest with
      | [] => simp [read, hhigh, bytesOf]
      | [c] => simp [read, hhigh, bytesOf]
      | c :: d :: rest =>
        by_cases hlow : isLowSurrogate (o.unit c d)
        · rw [read_pair hhigh hlow, bytesOf, units_pairPoint hhigh hlow]
          simp [bytes_unit]
        · simp [read, hhigh, hlow, bytesOf]
    · by_cases hlow : isLowSurrogate (o.unit a b)
      · simp [read, hhigh, hlow, bytesOf]
      · rw [read_unit hhigh hlow, bytesOf, units_ofNat (unit_lt o a b) hhigh hlow]
        simp [bytes_unit]

theorem undoes (o : ByteOrder) : (utf16 o).Undoes (bytesOf o) where
  read_scalar c := by
    rcases units_cases c with ⟨u, hunits, hlt, hhigh, hlow, hc⟩ | ⟨u, v, hunits, hhigh, hlow, hc⟩
    · obtain ⟨a, b, hbytes, rfl⟩ := exists_bytes o hlt
      refine ⟨a, [b], ?_, fun rest => ?_⟩
      · rw [bytesOf, hunits, List.flatMap_singleton, hbytes]
      · have hread : (utf16 o).read a (b :: rest) = _ := read_unit hhigh hlow rest
        rw [List.singleton_append, hread, hc]
    · have hu : u < 0x10000 := by
        rw [isHighSurrogate_iff] at hhigh
        omega
      have hv : v < 0x10000 := by
        rw [isLowSurrogate_iff] at hlow
        omega
      obtain ⟨a, b, hbytes, rfl⟩ := exists_bytes o hu
      obtain ⟨a', b', hbytes', rfl⟩ := exists_bytes o hv
      refine ⟨a, [b, a', b'], ?_, fun rest => ?_⟩
      · rw [bytesOf, hunits, List.flatMap_cons, List.flatMap_singleton, hbytes, hbytes']
        rfl
      · have hread : (utf16 o).read a (b :: a' :: b' :: rest) = _ := read_pair hhigh hlow rest
        rw [List.cons_append, List.cons_append, List.singleton_append, hread, hc]
  bytesOf_read := bytesOf_read o

section Text
variable (o : ByteOrder)

theorem encode_eq (text : String) :
    encode o text = (text.toList.map Item.scalar).flatMap (bytesOf o) := by
  rw [encode, List.flatMap_map]
  rfl

theorem isValid_encode (text : String) : (utf16 o).isValid (encode o text) := by
  rw [encode_eq]
  exact (undoes o).isValid_spelled text.toList

theorem decode_encode (text : String) : (utf16 o).decode (encode o text) = text := by
  rw [encode_eq, (undoes o).decode_spelled, String.ofList_toList]

theorem encode_decode {bs : Bytes} (h : (utf16 o).isValid bs) :
    encode o ((utf16 o).decode bs) = bs := by
  rw [encode_eq, (undoes o).spelled_of_isValid h]

end Text
end Utf16
end Lexicon
