import Lexicon.Number.Rounding

/-! Floating-point numbers as whole multiples of the least of them; every operation rounds once, to
nearest, with ties to even. -/

namespace Lexicon
namespace Binary64

/-- Around `u` units, the representable magnitudes are the multiples of `spacing u`. -/
def gap (u : Nat) : Nat := u.log2 - 52

def spacing (u : Nat) : Nat := Nat.pow 2 (gap u)

/-- The exponent of the least power of two, in units, that is too great for the format. -/
def topExponent : Nat := 2098

def overflow : Nat := Nat.pow 2 topExponent

/-- Magnitudes are counted in units, the least positive number of the format. -/
def unitsPerOne : Nat := Nat.pow 2 1074

def Representable (u : Nat) : Prop := u < overflow ∧ spacing u ∣ u

/-- The multiple of the local spacing that is nearest to `num / den` units. -/
def roundUnits (num den : Nat) : Nat :=
  let s := spacing (num / den)
  roundQuotient num (den * s) * s

theorem pow_two_pos (k : Nat) : 0 < Nat.pow 2 k := Nat.two_pow_pos k

theorem spacing_pos (u : Nat) : 0 < spacing u := pow_two_pos _

theorem gap_mul_le {m : Nat} (h : m < Nat.pow 2 53) (e : Nat) : gap (m * Nat.pow 2 e) ≤ e := by
  by_cases hm : m = 0
  · simp [hm, gap]
  · have hlt : m * Nat.pow 2 e < Nat.pow 2 (53 + e) :=
      Nat.lt_of_lt_of_eq (Nat.mul_lt_mul_of_pos_right h (pow_two_pos e)) (Nat.pow_add 2 53 e).symm
    have hne : m * Nat.pow 2 e ≠ 0 :=
      Nat.mul_ne_zero hm (Nat.pos_iff_ne_zero.1 (pow_two_pos e))
    have := (Nat.log2_lt hne).2 hlt
    simp only [gap]
    omega

theorem spacing_dvd {m : Nat} (h : m ≤ Nat.pow 2 53) (e : Nat) :
    spacing (m * Nat.pow 2 e) ∣ m * Nat.pow 2 e := by
  rcases Nat.lt_or_eq_of_le h with hlt | rfl
  · exact Nat.dvd_trans (Nat.pow_dvd_pow 2 (gap_mul_le hlt e)) (Nat.dvd_mul_left _ _)
  · have hpow : Nat.pow 2 53 * Nat.pow 2 e = Nat.pow 2 (53 + e) := (Nat.pow_add 2 53 e).symm
    have hlog : (Nat.pow 2 (53 + e)).log2 = 53 + e := Nat.log2_two_pow
    rw [hpow]
    exact Nat.pow_dvd_pow 2 (by simp only [gap, hlog]; omega)

theorem spacing_dvd_roundUnits (num den : Nat) :
    spacing (roundUnits num den) ∣ roundUnits num den := by
  apply spacing_dvd
  have hq : num / den < Nat.pow 2 53 * spacing (num / den) := by
    have h : num / den < Nat.pow 2 ((num / den).log2 + 1) := Nat.lt_log2_self
    have hle : Nat.pow 2 ((num / den).log2 + 1) ≤ Nat.pow 2 (53 + gap (num / den)) :=
      Nat.pow_le_pow_right (by decide) (by simp only [gap]; omega)
    have hpow : Nat.pow 2 (53 + gap (num / den)) = Nat.pow 2 53 * spacing (num / den) :=
      Nat.pow_add 2 53 _
    omega
  have hdiv : num / (den * spacing (num / den)) < Nat.pow 2 53 := by
    rw [← Nat.div_div_eq_div_mul]
    exact (Nat.div_lt_iff_lt_mul (spacing_pos _)).2 hq
  have := roundQuotient_le num (den * spacing (num / den))
  omega

end Binary64

inductive Binary64 where
  | nan
  | infinite (negative : Bool)
  | finite (negative : Bool) (units : Nat) (representable : Binary64.Representable units)

namespace Binary64

theorem overflow_pos : 0 < overflow := by
  unfold overflow
  exact pow_two_pos topExponent

theorem representable_zero : Representable 0 := ⟨overflow_pos, Nat.dvd_zero _⟩

def zero (negative : Bool) : Binary64 := finite negative 0 representable_zero

/-- The number nearest to `num / den` units. Beyond the greatest finite number it is infinite. -/
def ofUnits (negative : Bool) (num den : Nat) : Binary64 :=
  if h : roundUnits num den < overflow then
    finite negative (roundUnits num den) ⟨h, spacing_dvd_roundUnits num den⟩
  else infinite negative

def ofQuotient (negative : Bool) (num den : Nat) : Binary64 :=
  ofUnits negative (num * unitsPerOne) den

def ofNat (n : Nat) : Binary64 := ofQuotient false n 1

/-- The sum, rounded once. A sum of zero is positive unless both terms are negative zeros. -/
def add : Binary64 → Binary64 → Binary64
  | finite s u _, finite t v _ =>
    if s = t then ofUnits s (u + v) 1
    else if u = v then zero false
    else if v < u then ofUnits s (u - v) 1
    else ofUnits t (v - u) 1
  | infinite s, infinite t => if s = t then infinite s else nan
  | infinite s, finite _ _ _ => infinite s
  | finite _ _ _, infinite t => infinite t
  | _, _ => nan

def div : Binary64 → Binary64 → Binary64
  | finite s u _, finite t v _ =>
    if v = 0 then if u = 0 then nan else infinite (s != t)
    else ofQuotient (s != t) u v
  | infinite s, finite t _ _ => infinite (s != t)
  | finite s _ _, infinite t => zero (s != t)
  | _, _ => nan

instance : Add Binary64 := ⟨add⟩
instance : Div Binary64 := ⟨div⟩

/-- A magnitude in units with its sign, so that both zeros are the same integer. -/
def signed (negative : Bool) (u : Nat) : Int := if negative then -(u : Int) else u

/-- The order of the numbers themselves; NaN is neither below nor above anything. -/
def lt : Binary64 → Binary64 → Bool
  | finite s u _, finite t v _ => signed s u < signed t v
  | infinite s, infinite t => s && !t
  | infinite s, finite _ _ _ => s
  | finite _ _ _, infinite t => !t
  | _, _ => false

def isNaN : Binary64 → Bool
  | nan => true
  | _ => false

def isFinite : Binary64 → Bool
  | finite _ _ _ => true
  | _ => false

def le (x y : Binary64) : Bool := !x.isNaN && !y.isNaN && !lt y x

def bits : Binary64 → Nat
  | nan => 0x7FF8000000000000
  | infinite s => 0x7FF0000000000000 + s.toNat * 0x8000000000000000
  | finite s u _ => gap u * 0x10000000000000 + u / spacing u + s.toNat * 0x8000000000000000

end Binary64
end Lexicon
