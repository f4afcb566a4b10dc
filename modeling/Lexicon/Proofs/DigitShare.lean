import Lexicon.Number.Reading
import Lexicon.Proofs.Binary64
import Lexicon.Proofs.Generation
import Mathlib.Data.Nat.Digits.Defs

/-! The share of digits that makes a term numeric noise. Share and threshold are both rounded, and
still compare as the fractions do that they stand for. -/

namespace Lexicon

def digitCount (term : String) : Nat := term.toList.countP isDecimalDigit

theorem digitCount_le (term : String) : digitCount term ≤ term.length := by
  rw [← String.length_toList]
  exact List.countP_le_length

theorem length_pos_of_ne {term : String} (hne : term ≠ "") : 0 < term.length :=
  Nat.pos_of_ne_zero (mt String.length_eq_zero_iff.mp hne)

theorem digitShare_of_ne {term : String} (hne : term ≠ "") :
    digitShare term = some (Binary64.ofNat (digitCount term) / Binary64.ofNat term.length) := by
  unfold digitShare
  rw [if_neg (length_pos_of_ne hne).ne']
  rfl

theorem NoiseRule.drops_iff (f : NoiseRule) {term : String} (hne : term ≠ "") :
    f.drops term = true ↔
      f.ratioThreshold.lt (Binary64.ofNat (digitCount term) / Binary64.ofNat term.length) = true ∧
        f.lengthThreshold < term.length := by
  unfold drops
  rw [digitShare_of_ne hne]
  simp

theorem NoiseRule.drops_quotient_iff {p q : Nat} (lengthThreshold : Nat) {term : String}
    (hq : 0 < q) (hp : p ≤ q) (hne : term ≠ "") (hsize : term.length * q < 2 ^ 52) :
    (NoiseRule.mk (.ofQuotient false p q) lengthThreshold).drops term = true ↔
      lengthThreshold < term.length ∧ p * term.length < digitCount term * q := by
  have hpos := length_pos_of_ne hne
  have hlength : term.length < 2 ^ 53 := by nlinarith
  rw [drops_iff _ hne, Binary64.ofNat_div_ofNat hpos (digitCount_le term) hlength,
    Binary64.lt_ofQuotient_iff hq hpos hp (digitCount_le term) hsize]
  exact and_comm

namespace Decimal
variable {digits places num den : Nat}

/-- The digits of a part of one reach neither above one nor below what its denominator leaves. -/
theorem length_toDigits_part (hdigits : digits ≠ 0) (hden : 0 < den) (hle : num ≤ den)
    (hsize : den < 2 ^ 52) (h : digits * den = num * 10 ^ places) :
    (Nat.toDigits 10 digits).length ≤ places + 1 ∧
      places < (Nat.toDigits 10 digits).length + 16 := by
  constructor
  · rw [Nat.length_toDigits_le_iff (by decide) (Nat.succ_pos places), Nat.pow_succ]
    have hscaled : digits * den ≤ 10 ^ places * den := by
      rw [h, Nat.mul_comm _ den]
      exact Nat.mul_le_mul_right _ hle
    have hpow : 0 < 10 ^ places := Nat.pow_pos (by decide)
    have hbelow := Nat.le_of_mul_le_mul_right hscaled hden
    omega
  · have hnum : 0 < num := by
      rw [Nat.pos_iff_ne_zero]
      rintro rfl
      rw [Nat.zero_mul] at h
      exact Nat.mul_ne_zero hdigits hden.ne' h
    have hbelow : digits < 10 ^ (Nat.toDigits 10 digits).length :=
      (Nat.length_toDigits_le_iff (by decide) Nat.length_toDigits_pos).mp le_rfl
    have hlt : 10 ^ places < 10 ^ (Nat.toDigits 10 digits).length * 10 ^ 16 :=
      calc 10 ^ places ≤ num * 10 ^ places := Nat.le_mul_of_pos_left _ hnum
        _ = digits * den := h.symm
        _ < 10 ^ (Nat.toDigits 10 digits).length * 10 ^ 16 :=
          Nat.mul_lt_mul_of_lt_of_le hbelow (by omega) (by decide)
    rw [← Nat.pow_add] at hlt
    exact (Nat.pow_lt_pow_iff_right (by decide)).mp hlt

/-- A decimal of the value `num / den`, no more than one, is read as that fraction would be. -/
theorem toBinary64_part (hden : 0 < den) (hle : num ≤ den) (hsize : den < 2 ^ 52)
    (h : digits * den = num * 10 ^ places) :
    toBinary64 false ⟨digits, -places⟩ = .ofQuotient false num den := by
  have hpow : 0 < 10 ^ places := Nat.pow_pos (by decide)
  unfold toBinary64
  dsimp only
  by_cases hzero : digits = 0
  · have hnum : num = 0 := by
      rw [hzero, Nat.zero_mul] at h
      exact (Nat.mul_eq_zero.mp h.symm).resolve_right hpow.ne'
    rw [if_pos (.inl hzero), hnum, Binary64.ofQuotient_zero hden]
  · obtain ⟨hfew, hmany⟩ := length_toDigits_part hzero hden hle hsize h
    have hquotient := Binary64.ofQuotient_congr hpow hden h false
    rw [if_neg (by omega), if_neg (by omega)]
    split
    next =>
      have hplaces : places = 0 := by omega
      simpa [hplaces] using hquotient
    next => simpa using hquotient

end Decimal

/-- A plus sign changes nothing. -/
theorem Binary64.read_of_readDecimal {text : String} {cs : List Char} {d : Decimal}
    (htext : text.toList = cs ∨ text.toList = '+' :: cs) (h : readDecimal cs = some d) :
    read text = .ok (d.toBinary64 false) := by
  unfold read
  rcases htext with htext | htext
  · rw [htext]
    split
    next => contradiction
    next => contradiction
    next => contradiction
    next => simp only [h]
  · rw [htext]
    simp only [h]

/-- The test for noise decides on the share of digits itself, not on its rounding. A threshold
`p / q` counts as that fraction, in whatever decimals it was written, as long as `q` is not too
great for the length of the term. -/
theorem digit_share_compared_exactly (term : String) (hne : term ≠ "") :
    (∀ p q lengthThreshold : Nat, p ≤ q → 1 ≤ q → term.length * q < 2 ^ 52 →
      ((NoiseRule.mk (.ofQuotient false p q) lengthThreshold).drops term = true ↔
        lengthThreshold < term.length ∧ p * term.length < digitCount term * q) ∧
      ∀ (text : String) (cs : List Char) (digits places : Nat),
        text.toList = cs ∨ text.toList = '+' :: cs →
        Binary64.readDecimal cs = some ⟨digits, -places⟩ → digits * q = p * 10 ^ places →
        Binary64.read text = .ok (.ofQuotient false p q)) ∧
    (term.length * 2 < 2 ^ 52 →
      (({} : NoiseRule).drops term = true ↔
        3 < term.length ∧ term.length < 2 * digitCount term)) := by
  constructor
  · intro p q lengthThreshold hp hq hsize
    refine ⟨NoiseRule.drops_quotient_iff lengthThreshold hq hp hne hsize, ?_⟩
    intro text cs digits places htext hread hvalue
    have hpos := length_pos_of_ne hne
    have hden : q < 2 ^ 52 := by nlinarith
    rw [Binary64.read_of_readDecimal htext hread, Decimal.toBinary64_part hq hp hden hvalue]
  · intro hsize
    have h := NoiseRule.drops_quotient_iff (p := 1) 3 (by decide) (by decide) hne hsize
    rw [Nat.one_mul, Nat.mul_comm _ 2] at h
    exact h

/-- Three tenths is no number of the format, and neither is the ratio that equals it. -/
theorem three_tenths_kept :
    (NoiseRule.mk (.ofQuotient false 3 10) 3).drops "ab12cd3efg" = false ∧
    (NoiseRule.mk (.ofQuotient false 3 10) 3).drops "ab12cd34fg" = true ∧
    Binary64.read "0.30" = .ok (.ofQuotient false 3 10) := by
  have hequal : digitCount "ab12cd3efg" = 3 := by decide +kernel
  have hgreater : digitCount "ab12cd34fg" = 4 := by decide +kernel
  obtain ⟨hkept, hread⟩ := (digit_share_compared_exactly "ab12cd3efg" (by decide)).1 3 10 3
    (by decide) (by decide) (by decide)
  obtain ⟨hdropped, -⟩ := (digit_share_compared_exactly "ab12cd34fg" (by decide)).1 3 10 3
    (by decide) (by decide) (by decide)
  refine ⟨?_, ?_, hread "0.30" "0.30".toList 30 2 (.inl rfl) rfl (by decide)⟩
  · rw [← Bool.not_eq_true, hkept, hequal]
    decide
  · rw [hdropped, hgreater]
    decide

end Lexicon
