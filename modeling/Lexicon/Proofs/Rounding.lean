import Lexicon.Number.Binary64
import Mathlib.Data.Nat.Log
import Mathlib.Tactic.Linarith
import Mathlib.Tactic.Ring

/-! Rounding keeps the order of quotients. It moves none of them by more than half the local
spacing, and none past a number of the format. -/

namespace Lexicon

section Quotient
variable {num den : Nat}

/-- A quotient is rounded to no more than `k` if it lies below the middle of `k` and `k + 1`, or at
the middle if `k` is even. -/
theorem roundQuotient_le_iff (hden : 0 < den) (k : Nat) :
    roundQuotient num den ≤ k ↔
      2 * num < (2 * k + 1) * den ∨ 2 * num = (2 * k + 1) * den ∧ k % 2 = 0 := by
  have hdiv := Nat.div_add_mod' num den
  have hmod := Nat.mod_lt num hden
  have hmiddle : (2 * k + 1) * den = 2 * (k * den) + den := by ring
  rcases Nat.lt_trichotomy (num / den) k with hlt | heq | hgt
  · have hle := Nat.mul_le_mul_right den hlt
    rw [Nat.succ_mul] at hle
    have hround := roundQuotient_le num den
    exact iff_of_true (by omega) (by omega)
  · unfold roundQuotient
    rw [heq] at hdiv ⊢
    dsimp only
    split_ifs <;> omega
  · have hle := Nat.mul_le_mul_right den hgt
    rw [Nat.succ_mul] at hle
    have hround := div_le_roundQuotient num den
    exact iff_of_false (by omega) (by omega)

theorem roundQuotient_mono {num' den' : Nat} (hden : 0 < den) (hden' : 0 < den')
    (h : num * den' ≤ num' * den) : roundQuotient num den ≤ roundQuotient num' den' := by
  rw [roundQuotient_le_iff hden]
  -- What holds of the greater quotient and its rounding holds of the smaller quotient with it.
  generalize hk : roundQuotient num' den' = k
  have hgreater := (roundQuotient_le_iff hden' k).mp hk.le
  have hscaled : 2 * num * den' ≤ 2 * num' * den := by nlinarith
  rcases hgreater with hlt | ⟨heq, heven⟩
  · left
    have hlt' := Nat.mul_lt_mul_of_pos_right hlt hden
    exact Nat.lt_of_mul_lt_mul_right (a := den') (by nlinarith)
  · have hle : 2 * num ≤ (2 * k + 1) * den := by
      rw [heq] at hscaled
      exact Nat.le_of_mul_le_mul_right (by linarith) hden'
    rcases hle.lt_or_eq with hlt | heq'
    · exact .inl hlt
    · exact .inr ⟨heq', heven⟩

theorem two_mul_roundQuotient_le (num : Nat) (hden : 0 < den) :
    2 * (roundQuotient num den * den) ≤ 2 * num + den := by
  by_contra! hlt
  have hpos : roundQuotient num den ≠ 0 := by
    intro hzero
    rw [hzero, Nat.zero_mul] at hlt
    omega
  obtain ⟨k, hk⟩ := Nat.exists_eq_succ_of_ne_zero hpos
  have hround : ¬roundQuotient num den ≤ k := by omega
  rw [hk, Nat.succ_mul] at hlt
  apply hround
  rw [roundQuotient_le_iff hden]
  left
  linarith

theorem le_two_mul_roundQuotient (num : Nat) (hden : 0 < den) :
    2 * num ≤ 2 * (roundQuotient num den * den) + den := by
  rcases (roundQuotient_le_iff hden (roundQuotient num den)).mp le_rfl with hlt | ⟨heq, -⟩
  · linarith
  · linarith

end Quotient

namespace Binary64

theorem gap_mono {u v : Nat} (h : u ≤ v) : gap u ≤ gap v := by
  have hlog : u.log2 ≤ v.log2 := by
    rw [Nat.log2_eq_log_two, Nat.log2_eq_log_two]
    exact Nat.log_mono_right h
  unfold gap
  omega

theorem spacing_mono {u v : Nat} (h : u ≤ v) : spacing u ≤ spacing v :=
  Nat.pow_le_pow_right (by decide) (gap_mono h)

section Units
variable {num den : Nat}

theorem le_roundUnits (hden : 0 < den) {u : Nat} (hdvd : spacing (num / den) ∣ u)
    (h : u * den ≤ num) : u ≤ roundUnits num den := by
  obtain ⟨k, rfl⟩ := hdvd
  have hs := spacing_pos (num / den)
  unfold roundUnits
  dsimp only
  rw [Nat.mul_comm _ k]
  apply Nat.mul_le_mul_right
  refine le_trans ?_ (div_le_roundQuotient _ _)
  rw [Nat.le_div_iff_mul_le (Nat.mul_pos hden hs)]
  linarith

theorem roundUnits_le (hden : 0 < den) {u : Nat} (hdvd : spacing (num / den) ∣ u)
    (h : num ≤ u * den) : roundUnits num den ≤ u := by
  obtain ⟨k, rfl⟩ := hdvd
  have hpos := Nat.mul_pos hden (spacing_pos (num / den))
  unfold roundUnits
  dsimp only
  rw [Nat.mul_comm _ k]
  apply Nat.mul_le_mul_right
  rw [roundQuotient_le_iff hpos]
  left
  nlinarith

theorem roundUnits_of_dvd (hden : 0 < den) {u : Nat} (hdvd : spacing u ∣ u) :
    roundUnits (u * den) den = u := by
  have hdiv : u * den / den = u := Nat.mul_div_cancel u hden
  apply le_antisymm
  · exact roundUnits_le hden (by rwa [hdiv]) le_rfl
  · exact le_roundUnits hden (by rwa [hdiv]) le_rfl

theorem two_mul_roundUnits_le (num : Nat) (hden : 0 < den) :
    2 * (roundUnits num den * den) ≤ 2 * num + spacing (num / den) * den := by
  have h := two_mul_roundQuotient_le num (Nat.mul_pos hden (spacing_pos (num / den)))
  unfold roundUnits
  dsimp only
  linarith

theorem le_two_mul_roundUnits (num : Nat) (hden : 0 < den) :
    2 * num ≤ 2 * (roundUnits num den * den) + spacing (num / den) * den := by
  have h := le_two_mul_roundQuotient num (Nat.mul_pos hden (spacing_pos (num / den)))
  unfold roundUnits
  dsimp only
  linarith

/-- A greater quotient is not rounded to less, even where the spacing grows between the two: there a
power of two lies between them, which neither is rounded past. -/
theorem roundUnits_mono {num' den' : Nat} (hden : 0 < den) (hden' : 0 < den')
    (h : num * den' ≤ num' * den) : roundUnits num den ≤ roundUnits num' den' := by
  have hdiv : num / den ≤ num' / den' := by
    rw [Nat.le_div_iff_mul_le hden']
    have hscaled : num / den * den' * den ≤ num' * den :=
      calc num / den * den' * den = num / den * den * den' := by ring
        _ ≤ num * den' := Nat.mul_le_mul_right den' (Nat.div_mul_le_self num den)
        _ ≤ num' * den := h
    exact Nat.le_of_mul_le_mul_right hscaled hden
  rcases (gap_mono hdiv).eq_or_lt with hgap | hgap
  · have hspacing : spacing (num / den) = spacing (num' / den') := congrArg (Nat.pow 2) hgap
    have hs := spacing_pos (num' / den')
    unfold roundUnits
    dsimp only
    rw [hspacing]
    apply Nat.mul_le_mul_right
    apply roundQuotient_mono (Nat.mul_pos hden hs) (Nat.mul_pos hden' hs)
    nlinarith
  · have hlog : (num / den).log2 < (num' / den').log2 := by
      unfold gap at hgap
      omega
    have hne : num' / den' ≠ 0 := by
      intro hzero
      rw [hzero] at hlog
      exact absurd hlog (Nat.not_lt_zero _)
    have hbelow : num / den < Nat.pow 2 (num' / den').log2 :=
      Nat.lt_of_lt_of_le Nat.lt_log2_self (Nat.pow_le_pow_right (by decide) hlog)
    have habove : Nat.pow 2 (num' / den').log2 ≤ num' / den' := Nat.log2_self_le hne
    have hdvd (u : Nat) (hu : u.log2 ≤ (num' / den').log2) :
        spacing u ∣ Nat.pow 2 (num' / den').log2 := by
      apply Nat.pow_dvd_pow
      unfold gap
      omega
    calc roundUnits num den ≤ Nat.pow 2 (num' / den').log2 :=
          roundUnits_le hden (hdvd _ hlog.le) ((Nat.div_lt_iff_lt_mul hden).mp hbelow).le
      _ ≤ roundUnits num' den' :=
          le_roundUnits hden' (hdvd _ le_rfl) ((Nat.le_div_iff_mul_le hden').mp habove)

theorem roundUnits_congr {num' den' : Nat} (hden : 0 < den) (hden' : 0 < den')
    (h : num * den' = num' * den) : roundUnits num den = roundUnits num' den' :=
  le_antisymm (roundUnits_mono hden hden' h.le) (roundUnits_mono hden' hden h.ge)

end Units
end Binary64
end Lexicon
