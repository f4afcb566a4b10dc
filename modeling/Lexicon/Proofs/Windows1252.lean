import Lexicon.Proofs.Utf8
import Lexicon.Text.Windows1252

/-! Every byte string is well formed in windows-1252, where each byte is a character and no two
bytes are the same one. -/

namespace Lexicon

namespace Windows1252

theorem char_cases (b : UInt8) :
    (∃ i < 32, b.toNat = 0x80 + i ∧ char b = upper.getD i '\uFFFD') ∨
      (b.toNat < 0x80 ∨ 0xA0 ≤ b.toNat) ∧ char b = Char.ofNat b.toNat ∧
        (char b).toNat = b.toNat := by
  have hlt := b.toNat_lt
  have hnat : (Char.ofNat b.toNat).toNat = b.toNat := Utf8.toNat_ofNat (by omega)
  unfold char
  simp only [Bool.and_eq_true, decide_eq_true_eq, UInt8.le_iff_toNat_le, UInt8.lt_iff_toNat_lt,
    UInt8.reduceToNat]
  split
  next hb => exact .inl ⟨b.toNat - 0x80, by omega, by omega, rfl⟩
  next hb => exact .inr ⟨by omega, rfl, hnat⟩

theorem upper_spec : ∀ i < 32,
    byte? (upper.getD i '\uFFFD') = some (UInt8.ofNat (0x80 + i)) ∧
      0x80 ≤ (upper.getD i '\uFFFD').toNat ∧ upper.getD i '\uFFFD' ≠ '\uFFFD' := by
  decide

/-- No byte of the table stands for the replacement character. -/
theorem char_ne_replacement (b : UInt8) : char b ≠ '\uFFFD' := by
  rcases char_cases b with ⟨i, hi, -, hchar⟩ | ⟨-, -, hnat⟩
  · rw [hchar]
    exact (upper_spec i hi).2.2
  · intro h
    have hlt := b.toNat_lt
    have hreplacement : '\uFFFD'.toNat = 0xFFFD := rfl
    rw [h, hreplacement] at hnat
    omega

/-- No two bytes stand for one character. -/
theorem byte?_char (b : UInt8) : byte? (char b) = some b := by
  rcases char_cases b with ⟨i, hi, hnumber, hchar⟩ | ⟨hrange, -, hnat⟩
  · rw [hchar, (upper_spec i hi).1, ← hnumber, UInt8.ofNat_toNat]
  · have hlt := b.toNat_lt
    rw [byte?, hnat, if_pos, UInt8.ofNat_toNat]
    simp only [Bool.or_eq_true, Bool.and_eq_true, decide_eq_true_eq]
    omega

theorem le_char {b : UInt8} (hb : 0x80 ≤ b.toNat) : 0x80 ≤ (char b).toNat := by
  rcases char_cases b with ⟨i, hi, -, hchar⟩ | ⟨-, -, hnat⟩
  · rw [hchar]
    exact (upper_spec i hi).2.1
  · rwa [hnat]

theorem char_of_lt {b : UInt8} (hb : b.toNat < 0x80) : char b = Char.ofNat b.toNat := by
  rcases char_cases b with ⟨i, -, hnumber, -⟩ | ⟨-, hchar, -⟩
  · omega
  · exact hchar

end Windows1252

theorem windows1252_scan (bs : Bytes) :
    windows1252.scan bs = bs.map fun b => .scalar (Windows1252.char b) := by
  induction bs with
  | nil => rw [Reader.scan_nil, List.map_nil]
  | cons b bs ih =>
    rw [Reader.scan_cons, List.map_cons, ← ih]
    rfl

theorem windows1252_isValid (bs : Bytes) : windows1252.isValid bs := by
  rw [Reader.isValid, windows1252_scan, List.all_map, List.all_eq_true]
  intro b _
  rfl

theorem windows1252_decode (bs : Bytes) :
    windows1252.decode bs = String.ofList (bs.map Windows1252.char) := by
  rw [Reader.decode, windows1252_scan, List.map_map]
  rfl

theorem Windows1252.encode?_decode (bs : Bytes) : encode? (windows1252.decode bs) = some bs := by
  rw [encode?, windows1252_decode, String.toList_ofList]
  induction bs with
  | nil => rfl
  | cons b bs ih =>
    rw [List.map_cons, List.mapM_cons, byte?_char, ih]
    rfl

end Lexicon
