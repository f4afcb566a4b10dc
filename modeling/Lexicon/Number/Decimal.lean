import Lexicon.Number.Binary64

/-! Decimal texts of floating-point numbers: the shortest, or one with fixed places. -/

namespace Lexicon

/-- The decimal number `digits · 10 ^ exponent`. -/
structure Decimal where
  digits : Nat
  exponent : Int

namespace Decimal

/-- The digits around a decimal point, with no exponent and no digit that says nothing. -/
def text (d : Decimal) : String :=
  let ds := Nat.toDigits 10 d.digits
  let places := (-d.exponent).toNat
  if 0 ≤ d.exponent then String.ofList (ds ++ List.replicate d.exponent.toNat '0')
  else if places < ds.length then
    String.ofList (ds.take (ds.length - places) ++ '.' :: ds.drop (ds.length - places))
  else String.ofList ('0' :: '.' :: (List.replicate (places - ds.length) '0' ++ ds))

/-- Outside the exponents of the format the power of ten is not computed. -/
def toBinary64 (negative : Bool) (d : Decimal) : Binary64 :=
  let size : Int := (Nat.toDigits 10 d.digits).length + d.exponent
  if d.digits = 0 ∨ size < -400 then .zero negative
  else if 400 < size then .infinite negative
  else if 0 ≤ d.exponent then .ofQuotient negative (d.digits * Nat.pow 10 d.exponent.toNat) 1
  else .ofQuotient negative d.digits (Nat.pow 10 (-d.exponent).toNat)

end Decimal

namespace Binary64

/-- The magnitudes that round to a given one lie between `low` and `high`, in quarters of a unit. -/
structure Interval where
  low : Nat
  high : Nat
  closed : Bool

/-- Below a power of two the numbers lie twice as close as above it. -/
def interval (u : Nat) : Interval where
  low := 4 * u - (if u = Nat.pow 2 u.log2 ∧ 0 < gap u then spacing u else 2 * spacing u)
  high := 4 * u + 2 * spacing u
  closed := u / spacing u % 2 == 0

/-- The multiple of `10 ^ exponent` that rounds to `u` units, if there is one: of two such
neighbours the nearer, and the upper one if they are equally near. -/
def onGrid (u : Nat) (exponent : Int) : Option Decimal :=
  let scale := if 0 ≤ exponent then 1 else Nat.pow 10 (-exponent).toNat
  let step := 4 * unitsPerOne * if 0 ≤ exponent then Nat.pow 10 exponent.toNat else 1
  let i := interval u
  let inside (d : Nat) : Bool :=
    if i.closed then i.low * scale ≤ d * step && d * step ≤ i.high * scale
    else i.low * scale < d * step && d * step < i.high * scale
  let below := 4 * u * scale / step
  let nearer := if 2 * (4 * u * scale % step) < step then below else below + 1
  if inside below && inside (below + 1) then some ⟨nearer, exponent⟩
  else if inside below then some ⟨below, exponent⟩
  else if inside (below + 1) then some ⟨below + 1, exponent⟩
  else none

def shortest (u : Nat) : Decimal :=
  ((List.range 640).findSome? fun (i : Nat) => onGrid u (310 - (i : Int))).getD ⟨0, 0⟩

def signText (negative : Bool) : String := if negative then "-" else ""

def text : Binary64 → String
  | nan => "NaN"
  | infinite s => signText s ++ "inf"
  | finite s u _ => signText s ++ (if u = 0 then "0" else (shortest u).text)

/-- The text with a fixed number of decimal places; a half goes to the even digit. -/
def textFixed (places : Nat) : Binary64 → String
  | nan => "NaN"
  | infinite s => signText s ++ "inf"
  | finite s u _ =>
    let ds := Nat.toDigits 10 (roundQuotient (u * Nat.pow 10 places) unitsPerOne)
    let ds := List.replicate (places + 1 - ds.length) '0' ++ ds
    signText s ++ String.ofList
      (ds.take (ds.length - places) ++ '.' :: ds.drop (ds.length - places))

end Binary64
end Lexicon
