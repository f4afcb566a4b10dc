import Mathlib.Data.List.TakeWhile

/-! The decimal digits of numbers, where they end and how they are parted. -/

namespace Lexicon

theorem isDigit_of_mem_digits {n : Nat} : ∀ c ∈ Nat.toDigits 10 n, c.isDigit = true := by
  intro c hc
  exact Nat.isDigit_of_mem_toDigits (by decide) (by decide) hc

theorem digits_inj {a b : Nat} (h : Nat.toDigits 10 a = Nat.toDigits 10 b) : a = b :=
  calc a = Nat.ofDigitChars 10 (Nat.toDigits 10 a) 0 := Nat.ofDigitChars_ten_toDigits.symm
    _ = Nat.ofDigitChars 10 (Nat.toDigits 10 b) 0 := by rw [h]
    _ = b := Nat.ofDigitChars_ten_toDigits

section Behind
variable {x y : Char} (hx : x.isDigit = false) (hy : y.isDigit = false)
include hx

theorem takeWhile_digits_append (n : Nat) (rest : List Char) :
    (Nat.toDigits 10 n ++ x :: rest).takeWhile Char.isDigit = Nat.toDigits 10 n := by
  rw [List.takeWhile_append_of_pos isDigit_of_mem_digits, List.takeWhile_cons_of_neg (by simp [hx]),
    List.append_nil]

include hy

/-- The digits of a number end where the first other character stands. -/
theorem digits_append_inj {a b : Nat} {rest others : List Char}
    (h : Nat.toDigits 10 a ++ x :: rest = Nat.toDigits 10 b ++ y :: others) :
    a = b ∧ x = y ∧ rest = others := by
  have htake := congrArg (List.takeWhile Char.isDigit) h
  rw [takeWhile_digits_append hx, takeWhile_digits_append hy] at htake
  rw [htake] at h
  exact ⟨digits_inj htake, List.cons.inj (List.append_cancel_left h)⟩

end Behind

/-- The last digit of a number stands behind the others, or behind a zero if it is the only one. -/
theorem replicate_append_digits (n : Nat) :
    List.replicate (2 - (Nat.toDigits 10 n).length) '0' ++ Nat.toDigits 10 n =
      Nat.toDigits 10 (n / 10) ++ Nat.toDigits 10 (n % 10) := by
  rcases Nat.lt_or_ge n 10 with hlt | hge
  · rw [Nat.div_eq_of_lt hlt, Nat.mod_eq_of_lt hlt, Nat.toDigits_of_lt_base hlt]
    rfl
  · have hpos : 0 < n / 10 := Nat.div_pos hge (by decide)
    have hsplit := Nat.toDigits_append_toDigits (by decide) hpos (Nat.mod_lt n (by decide : 0 < 10))
    rw [Nat.div_add_mod] at hsplit
    have hlength : 2 - (Nat.toDigits 10 n).length = 0 := by
      have hfront : 0 < (Nat.toDigits 10 (n / 10)).length := Nat.length_toDigits_pos
      have hlast : 0 < (Nat.toDigits 10 (n % 10)).length := Nat.length_toDigits_pos
      rw [← hsplit, List.length_append]
      omega
    rw [hlength, hsplit]
    rfl

/-- A point one place from the end stands before the last digit. -/
theorem point_before_last_digit (n : Nat) :
    let ds := List.replicate (1 + 1 - (Nat.toDigits 10 n).length) '0' ++ Nat.toDigits 10 n
    ds.take (ds.length - 1) ++ '.' :: ds.drop (ds.length - 1) =
      Nat.toDigits 10 (n / 10) ++ '.' :: Nat.toDigits 10 (n % 10) := by
  intro ds
  have hlast : (Nat.toDigits 10 (n % 10)).length = 1 := by
    rw [Nat.toDigits_of_lt_base (Nat.mod_lt n (by decide))]
    rfl
  have hds : ds = Nat.toDigits 10 (n / 10) ++ Nat.toDigits 10 (n % 10) := replicate_append_digits n
  have hlength : ds.length - 1 = (Nat.toDigits 10 (n / 10)).length := by
    rw [hds, List.length_append, hlast, Nat.add_sub_cancel]
  rw [hlength, hds, List.take_left, List.drop_left]

end Lexicon
