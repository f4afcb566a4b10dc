import Lexicon.Proofs.Rounding

/-! Quotients as floating-point numbers. Quotients up to one keep their order, and two of them are
rounded apart if the product of their denominators is below `2 ^ 52`. -/

namespace Lexicon
namespace Binary64

/-- The exponent is kept as a variable, so that no step of a proof computes the power. -/
theorem exists_unitsPerOne_eq : ∃ e, e = 1074 ∧ unitsPerOne = Nat.pow 2 e := by
  refine ⟨_, rfl, ?_⟩
  unfold unitsPerOne
  rfl

theorem unitsPerOne_pos : 0 < unitsPerOne := by
  obtain ⟨e, -, hunits⟩ := exists_unitsPerOne_eq
  rw [hunits]
  exact pow_two_pos e

theorem unitsPerOne_eq : unitsPerOne = 2 ^ 52 * spacing unitsPerOne := by
  obtain ⟨e, he, hunits⟩ := exists_unitsPerOne_eq
  have hlog : (Nat.pow 2 e).log2 = e := Nat.log2_two_pow
  have hsplit : e = 52 + (e - 52) := by omega
  rw [hunits, spacing, gap, hlog]
  conv_lhs => rw [hsplit]
  exact Nat.pow_add 2 52 (e - 52)

theorem spacing_pow_mul (k : Nat) :
    spacing (Nat.pow 2 k * unitsPerOne) = Nat.pow 2 k * spacing unitsPerOne := by
  obtain ⟨e, he, hunits⟩ := exists_unitsPerOne_eq
  have hmul : Nat.pow 2 k * Nat.pow 2 e = Nat.pow 2 (k + e) := (Nat.pow_add 2 k e).symm
  have hlog (j : Nat) : (Nat.pow 2 j).log2 = j := Nat.log2_two_pow
  have hsplit : k + e - 52 = k + (e - 52) := by omega
  rw [hunits, hmul, spacing, spacing, gap, gap, hlog, hlog, hsplit]
  exact Nat.pow_add 2 k (e - 52)

theorem exists_overflow_eq : ∃ e, e = 2098 ∧ overflow = Nat.pow 2 e := by
  refine ⟨topExponent, rfl, ?_⟩
  unfold overflow
  rfl

theorem mul_unitsPerOne_lt_overflow {n : Nat} (h : n < 2 ^ 53) : n * unitsPerOne < overflow := by
  obtain ⟨e, he, hunits⟩ := exists_unitsPerOne_eq
  obtain ⟨top, htop, hoverflow⟩ := exists_overflow_eq
  rw [hunits, hoverflow]
  calc n * Nat.pow 2 e < Nat.pow 2 53 * Nat.pow 2 e := Nat.mul_lt_mul_of_pos_right h (pow_two_pos e)
    _ = Nat.pow 2 (53 + e) := (Nat.pow_add 2 53 e).symm
    _ ≤ Nat.pow 2 top := Nat.pow_le_pow_right (by decide) (by omega)

theorem roundUnits_natural {n : Nat} (h : n < 2 ^ 53) :
    roundUnits (n * unitsPerOne) 1 = n * unitsPerOne := by
  obtain ⟨e, -, hunits⟩ := exists_unitsPerOne_eq
  have hdvd : spacing (n * unitsPerOne) ∣ n * unitsPerOne := by
    rw [hunits]
    exact spacing_dvd (Nat.le_of_lt h) e
  have hround := roundUnits_of_dvd Nat.one_pos hdvd
  rwa [Nat.mul_one] at hround

theorem exists_ofUnits_eq {num den : Nat} (h : roundUnits num den < overflow) (negative : Bool) :
    ∃ hr, ofUnits negative num den = finite negative (roundUnits num den) hr := by
  unfold ofUnits
  rw [dif_pos h]
  exact ⟨_, rfl⟩

theorem exists_ofNat_eq {n : Nat} (h : n < 2 ^ 53) :
    ∃ hr, ofNat n = finite false (n * unitsPerOne) hr := by
  have hlt := mul_unitsPerOne_lt_overflow h
  rw [← roundUnits_natural h] at hlt ⊢
  exact exists_ofUnits_eq hlt false

section Part
variable {num den : Nat}

/-- No part of one is rounded to more than one. -/
theorem roundUnits_part_le (hden : 0 < den) (h : num ≤ den) :
    roundUnits (num * unitsPerOne) den ≤ unitsPerOne := by
  have hscaled : num * unitsPerOne * 1 ≤ 1 * unitsPerOne * den := by
    rw [Nat.mul_one, Nat.one_mul, Nat.mul_comm unitsPerOne]
    exact Nat.mul_le_mul_right _ h
  calc roundUnits (num * unitsPerOne) den ≤ roundUnits (1 * unitsPerOne) 1 :=
        roundUnits_mono hden Nat.one_pos hscaled
    _ = 1 * unitsPerOne := roundUnits_natural (by norm_num)
    _ = unitsPerOne := Nat.one_mul _

theorem exists_ofQuotient_eq (hden : 0 < den) (h : num ≤ den) (negative : Bool) :
    ∃ hr, ofQuotient negative num den =
      finite negative (roundUnits (num * unitsPerOne) den) hr := by
  have hone := mul_unitsPerOne_lt_overflow (n := 1) (by norm_num)
  rw [Nat.one_mul] at hone
  exact exists_ofUnits_eq (Nat.lt_of_le_of_lt (roundUnits_part_le hden h) hone) negative

theorem spacing_part_le (h : num ≤ den) :
    spacing (num * unitsPerOne / den) ≤ spacing unitsPerOne := by
  apply spacing_mono
  apply Nat.div_le_of_le_mul
  exact Nat.mul_le_mul_right _ h

/-- Two parts of one differ by more than the rounding of both can make up for. -/
theorem roundUnits_part_lt {num' den' : Nat} (hden : 0 < den) (hden' : 0 < den')
    (hle : num ≤ den) (hle' : num' ≤ den') (hsize : den' * den < 2 ^ 52)
    (h : num * den' < num' * den) :
    roundUnits (num * unitsPerOne) den < roundUnits (num' * unitsPerOne) den' := by
  have hspacing := Nat.mul_le_mul_right den (spacing_part_le hle)
  have hspacing' := Nat.mul_le_mul_right den' (spacing_part_le hle')
  have hbelow := two_mul_roundUnits_le (num * unitsPerOne) hden
  have habove := le_two_mul_roundUnits (num' * unitsPerOne) hden'
  have hunits := unitsPerOne_eq
  have hpos := spacing_pos unitsPerOne
  by_contra! hround
  have hlow := Nat.mul_le_mul_right den' (hbelow.trans (Nat.add_le_add_left hspacing _))
  have hhigh := Nat.mul_le_mul_right den (habove.trans (Nat.add_le_add_left hspacing' _))
  have hrounds := Nat.mul_le_mul_right (den' * den) hround
  have hapart : (num * den' + 1) * unitsPerOne ≤ num' * den * unitsPerOne :=
    Nat.mul_le_mul_right _ h
  have hgap : unitsPerOne ≤ den' * den * spacing unitsPerOne := by linarith
  have hfew : den' * den * spacing unitsPerOne < 2 ^ 52 * spacing unitsPerOne :=
    Nat.mul_lt_mul_of_pos_right hsize hpos
  omega

end Part

theorem ofUnits_congr {num den num' den' : Nat} (hden : 0 < den) (hden' : 0 < den')
    (h : num * den' = num' * den) (negative : Bool) :
    ofUnits negative num den = ofUnits negative num' den' := by
  unfold ofUnits
  simp only [roundUnits_congr hden hden' h]

theorem ofQuotient_congr {num den num' den' : Nat} (hden : 0 < den) (hden' : 0 < den')
    (h : num * den' = num' * den) (negative : Bool) :
    ofQuotient negative num den = ofQuotient negative num' den' := by
  apply ofUnits_congr hden hden'
  rw [Nat.mul_right_comm, h, Nat.mul_right_comm]

theorem ofQuotient_zero {den : Nat} (hden : 0 < den) (negative : Bool) :
    ofQuotient negative 0 den = zero negative := by
  obtain ⟨hr, hquotient⟩ := exists_ofQuotient_eq hden (Nat.zero_le den) negative
  have hround := roundUnits_of_dvd hden (Nat.dvd_zero (spacing 0))
  rw [Nat.zero_mul] at hround
  rw [hquotient]
  simp only [Nat.zero_mul, hround, zero]

theorem finite_div_finite {u v : Nat} (hu : Representable u) (hv : Representable v)
    (hpos : 0 < v) : finite false u hu / finite false v hv = ofQuotient false u v := by
  change div _ _ = _
  rw [div, if_neg hpos.ne', bne_self_eq_false]

/-- The sum of two numbers, together below one minute of seconds, is off by at most half the spacing
there. -/
theorem finite_add_near {u v : Nat} (hu : Representable u) (hv : Representable v)
    (h : u + v ≤ 60 * unitsPerOne) :
    ∃ w hw, finite false u hu + finite false v hv = finite false w hw ∧
      2 * w ≤ 2 * (u + v) + 64 * spacing unitsPerOne ∧
      2 * (u + v) ≤ 2 * w + 64 * spacing unitsPerOne := by
  have hspacing : spacing (u + v) ≤ 64 * spacing unitsPerOne := by
    have hpow : (64 : Nat) = Nat.pow 2 6 := rfl
    rw [hpow, ← spacing_pow_mul, ← hpow]
    apply spacing_mono
    linarith
  have hfinite : roundUnits (u + v) 1 < overflow := by
    have hmono := roundUnits_mono Nat.one_pos Nat.one_pos (Nat.mul_le_mul_right 1 h)
    rw [roundUnits_natural (by norm_num)] at hmono
    exact Nat.lt_of_le_of_lt hmono (mul_unitsPerOne_lt_overflow (by norm_num))
  have hlow := two_mul_roundUnits_le (u + v) Nat.one_pos
  have hhigh := le_two_mul_roundUnits (u + v) Nat.one_pos
  rw [Nat.div_one, Nat.mul_one, Nat.mul_one] at hlow hhigh
  obtain ⟨hw, hsum⟩ := exists_ofUnits_eq hfinite false
  refine ⟨_, hw, ?_, hlow.trans (Nat.add_le_add_left hspacing _),
    hhigh.trans (Nat.add_le_add_left hspacing _)⟩
  change add _ _ = _
  rw [add, if_pos rfl, hsum]

section Comparison
variable {d n : Nat}

/-- Whole numbers of up to 53 bits are converted exactly, so that their quotient is rounded once. -/
theorem ofNat_div_ofNat (hn : 0 < n) (hle : d ≤ n) (h : n < 2 ^ 53) :
    ofNat d / ofNat n = ofQuotient false d n := by
  obtain ⟨hd', hdividend⟩ := exists_ofNat_eq (Nat.lt_of_le_of_lt hle h)
  obtain ⟨hn', hdivisor⟩ := exists_ofNat_eq h
  have hpos : 0 < n * unitsPerOne := Nat.mul_pos hn unitsPerOne_pos
  rw [hdividend, hdivisor, finite_div_finite _ _ hpos]
  apply ofQuotient_congr hpos hn
  ring

theorem lt_finite_iff {u v : Nat} (hu : Representable u) (hv : Representable v) :
    lt (finite false u hu) (finite false v hv) = true ↔ u < v := by
  simp [lt, signed]

/-- Parts of one with small denominators compare as their roundings do. -/
theorem lt_ofQuotient_iff {p q : Nat} (hq : 0 < q) (hn : 0 < n) (hp : p ≤ q) (hd : d ≤ n)
    (hsize : n * q < 2 ^ 52) :
    lt (ofQuotient false p q) (ofQuotient false d n) = true ↔ p * n < d * q := by
  obtain ⟨hp', hthreshold⟩ := exists_ofQuotient_eq hq hp false
  obtain ⟨hd', hshare⟩ := exists_ofQuotient_eq hn hd false
  rw [hthreshold, hshare, lt_finite_iff]
  constructor
  · contrapose!
    intro hle
    apply roundUnits_mono hn hq
    have hscaled := Nat.mul_le_mul_right unitsPerOne hle
    linarith
  · exact roundUnits_part_lt hq hn hp hd hsize

end Comparison

/-! Whole numbers of any size, which may be rounded, up to infinity. -/

theorem ofNat_cases (n : Nat) :
    (∃ hr, ofNat n = finite false (roundUnits (n * unitsPerOne) 1) hr) ∨
      overflow ≤ roundUnits (n * unitsPerOne) 1 ∧ ofNat n = infinite false := by
  rcases Nat.lt_or_ge (roundUnits (n * unitsPerOne) 1) overflow with hlt | hge
  · exact .inl (exists_ofUnits_eq hlt false)
  · refine .inr ⟨hge, ?_⟩
    unfold ofNat ofQuotient ofUnits
    rw [dif_neg (Nat.not_lt.mpr hge)]

theorem roundUnits_ofNat_mono {d n : Nat} (h : d ≤ n) :
    roundUnits (d * unitsPerOne) 1 ≤ roundUnits (n * unitsPerOne) 1 := by
  apply roundUnits_mono Nat.one_pos Nat.one_pos
  rw [Nat.mul_one, Nat.mul_one]
  exact Nat.mul_le_mul_right _ h

theorem roundUnits_ofNat_pos {n : Nat} (hn : 0 < n) : 0 < roundUnits (n * unitsPerOne) 1 := by
  calc 0 < 1 * unitsPerOne := Nat.mul_pos Nat.one_pos unitsPerOne_pos
    _ = roundUnits (1 * unitsPerOne) 1 := (roundUnits_natural (by norm_num)).symm
    _ ≤ roundUnits (n * unitsPerOne) 1 := roundUnits_ofNat_mono hn

theorem ofNat_zero_div {n : Nat} (hn : 0 < n) : ofNat 0 / ofNat n = zero false := by
  have hzero : ofNat 0 = zero false := ofQuotient_zero Nat.one_pos false
  rcases ofNat_cases n with ⟨hr, hfinite⟩ | ⟨-, hinfinite⟩
  · have hpos := roundUnits_ofNat_pos hn
    rw [hzero, hfinite, zero, finite_div_finite _ _ hpos]
    exact ofQuotient_zero hpos false
  · rw [hzero, hinfinite]
    rfl

/-- Not even the quotient of two rounded counts comes out above one. -/
theorem one_not_lt_share {d n : Nat} (hn : 0 < n) (h : d ≤ n) :
    lt (ofNat 1) (ofNat d / ofNat n) = false := by
  obtain ⟨hone', hone⟩ := exists_ofNat_eq (n := 1) (by norm_num)
  have hmono := roundUnits_ofNat_mono h
  rw [hone]
  rcases ofNat_cases n with ⟨hn', hdivisor⟩ | ⟨-, hdivisor⟩
  · have hpos := roundUnits_ofNat_pos hn
    rcases ofNat_cases d with ⟨hd', hdividend⟩ | ⟨hlarge, -⟩
    · obtain ⟨hr, hshare⟩ := exists_ofQuotient_eq hpos hmono false
      have hle := roundUnits_part_le hpos hmono
      rw [hdividend, hdivisor, finite_div_finite _ _ hpos, hshare, ← Bool.not_eq_true,
        lt_finite_iff]
      omega
    · exact absurd hn'.1 (Nat.not_lt.mpr (hlarge.trans hmono))
  · rcases ofNat_cases d with ⟨hd', hdividend⟩ | ⟨-, hdividend⟩
    · rw [hdividend, hdivisor, ← Bool.not_eq_true]
      exact (lt_finite_iff _ _).not.mpr (Nat.not_lt_zero _)
    · rw [hdividend, hdivisor]
      rfl

theorem lt_of_le {x y z : Binary64} (hle : le x y = true) (hlt : lt y z = true) :
    lt x z = true := by
  -- Where a number is not finite, the flags decide.
  rcases x with _ | s | ⟨s, u, hu⟩ <;> rcases y with _ | t | ⟨t, v, hv⟩ <;>
    rcases z with _ | r | ⟨r, w, hw⟩ <;> simp_all [le, lt, isNaN]
  exact lt_of_le_of_lt hle hlt

end Binary64
end Lexicon
