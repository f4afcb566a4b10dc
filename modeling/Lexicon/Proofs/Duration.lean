import Lexicon.Number.Duration
import Lexicon.Proofs.Binary64
import Lexicon.Proofs.Digits

/-! Spans of time as text. What is shown is off by less than the lesser unit, and each unit is
carried into the next, apart from the last twentieth of a second of the first minute. -/

namespace Lexicon

namespace Binary64

/-- With one decimal place a number shows the tenths that are nearest to it. -/
theorem textFixed_one {u : Nat} (hu : Representable u) :
    let tenths := roundQuotient (u * 10) unitsPerOne
    (finite false u hu).textFixed 1 = toString (tenths / 10) ++ "." ++ toString (tenths % 10) := by
  intro tenths
  have hpoint := congrArg (fun cs => "" ++ String.ofList cs) (point_before_last_digit tenths)
  refine Eq.trans hpoint ?_
  apply String.toList_injective
  simp

/-- Seconds below one minute are off by at most 65 halves of the spacing at one: by one half in the
part of a second, and by the others when this is added to the whole seconds. -/
theorem ofNat_add_part_near {n num den : Nat} (hn : n < 60) (hden : 0 < den) (hnum : num ≤ den)
    (hsize : den < 2 ^ 53) :
    ∃ u hu, ofNat n + ofNat num / ofNat den = finite false u hu ∧
      2 * (u * den) ≤ 2 * ((n * den + num) * unitsPerOne) + 65 * (spacing unitsPerOne * den) ∧
      2 * ((n * den + num) * unitsPerOne) ≤ 2 * (u * den) + 65 * (spacing unitsPerOne * den) := by
  obtain ⟨hn', hwhole⟩ := exists_ofNat_eq (n := n) (by omega)
  obtain ⟨hpart', hpart⟩ := exists_ofQuotient_eq hden hnum false
  have hpart_low := two_mul_roundUnits_le (num * unitsPerOne) hden
  have hpart_high := le_two_mul_roundUnits (num * unitsPerOne) hden
  have hpart_spacing := Nat.mul_le_mul_right den (spacing_part_le hnum)
  have hsum_le : n * unitsPerOne + roundUnits (num * unitsPerOne) den ≤ 60 * unitsPerOne := by
    have hwhole_le : n * unitsPerOne ≤ 59 * unitsPerOne := Nat.mul_le_mul_right _ (by omega)
    have hpart_le := roundUnits_part_le hden hnum
    linarith
  obtain ⟨u, hu, hsum, hsum_low, hsum_high⟩ := finite_add_near hn' hpart' hsum_le
  refine ⟨u, hu, ?_, ?_, ?_⟩
  · rw [ofNat_div_ofNat hden hnum hsize, hwhole, hpart, hsum]
  · have hscaled := Nat.mul_le_mul_right den hsum_low
    linarith
  · have hscaled := Nat.mul_le_mul_right den hsum_high
    linarith

/-- No other tenths are nearer to a number. -/
def IsNearTenths (x : Binary64) (tenths : Nat) : Prop :=
  ∃ u hu, x = finite false u hu ∧
    2 * (tenths * unitsPerOne) ≤ 2 * (u * 10) + unitsPerOne ∧
    2 * (u * 10) ≤ 2 * (tenths * unitsPerOne) + unitsPerOne

theorem isNearTenths_roundQuotient {u : Nat} (hu : Representable u) :
    (finite false u hu).IsNearTenths (roundQuotient (u * 10) unitsPerOne) :=
  ⟨u, hu, rfl, two_mul_roundQuotient_le (u * 10) unitsPerOne_pos,
    le_two_mul_roundQuotient (u * 10) unitsPerOne_pos⟩

end Binary64

/-- What a text shows of a span of time: tenths of seconds, or two units one of which is the next
greater than the other. -/
inductive Duration.Shown where
  | seconds (tenths : Nat)
  | minutes (m s : Nat)
  | hours (h m : Nat)

namespace Duration
namespace Shown

def text : Shown → String
  | seconds tenths => toString (tenths / 10) ++ "." ++ toString (tenths % 10) ++ "s"
  | minutes m s => toString m ++ "m " ++ toString s ++ "s"
  | hours h m => toString h ++ "h " ++ toString m ++ "m"

def amount : Shown → Nat
  | seconds tenths => tenths * 100000000
  | minutes m s => (m * 60 + s) * second
  | hours h m => (h * 60 + m) * (60 * second)

def unit : Shown → Nat
  | seconds _ => 100000000
  | minutes _ _ => second
  | hours _ _ => 60 * second

/-- No unit is shown as often as makes one of the next, and the greater of two is shown at all. -/
def IsCarried : Shown → Prop
  | seconds tenths => tenths < 600
  | minutes m s => 1 ≤ m ∧ m < 60 ∧ s < 60
  | hours h m => 1 ≤ h ∧ m < 60

def parts : Shown → Nat × Char × List Char
  | seconds tenths => (tenths / 10, '.', Nat.toDigits 10 (tenths % 10) ++ ['s'])
  | minutes m s => (m, 'm', ' ' :: (Nat.toDigits 10 s ++ ['s']))
  | hours h m => (h, 'h', ' ' :: (Nat.toDigits 10 m ++ ['m']))

theorem toList_text (shown : Shown) :
    shown.text.toList = Nat.toDigits 10 shown.parts.1 ++ shown.parts.2.1 :: shown.parts.2.2 := by
  cases shown <;> simp [text, parts]

theorem isDigit_parts (shown : Shown) : shown.parts.2.1.isDigit = false := by
  cases shown <;> rfl

theorem text_injective : Function.Injective text := by
  intro a b h
  have hlist := congrArg String.toList h
  rw [toList_text, toList_text] at hlist
  obtain ⟨hnumber, hmark, hrest⟩ := digits_append_inj a.isDigit_parts b.isDigit_parts hlist
  have hlast {m n : Nat} {c : Char} (hc : c.isDigit = false)
      (hdigits : Nat.toDigits 10 m ++ [c] = Nat.toDigits 10 n ++ [c]) : m = n :=
    (digits_append_inj hc hc hdigits).1
  cases a with
  | seconds t =>
    cases b with
    | seconds t' =>
      have hdiv : t / 10 = t' / 10 := hnumber
      have hmod : t % 10 = t' % 10 := hlast (by decide) hrest
      exact congrArg seconds (by omega)
    | minutes => simp [parts] at hmark
    | hours => simp [parts] at hmark
  | minutes m s =>
    cases b with
    | minutes m' s' =>
      have hless : s = s' := hlast (by decide) (List.cons.inj hrest).2
      exact congrArg₂ minutes hnumber hless
    | seconds => simp [parts] at hmark
    | hours => simp [parts] at hmark
  | hours h m =>
    cases b with
    | hours h' m' =>
      have hless : m = m' := hlast (by decide) (List.cons.inj hrest).2
      exact congrArg₂ hours hnumber hless
    | seconds => simp [parts] at hmark
    | minutes => simp [parts] at hmark

end Shown

def total (d : Duration) : Nat := d.seconds * second + d.nanoseconds

section Seconds
variable {d : Duration} (h : d.seconds < 60)
include h

theorem toSeconds_near : ∃ u hu, d.toSeconds = .finite false u hu ∧
    2 * (u * second) ≤ 2 * (d.total * Binary64.unitsPerOne) +
      65 * (Binary64.spacing Binary64.unitsPerOne * second) ∧
    2 * (d.total * Binary64.unitsPerOne) ≤ 2 * (u * second) +
      65 * (Binary64.spacing Binary64.unitsPerOne * second) := by
  have hpart : d.nanoseconds ≤ second := d.nanoseconds_lt.le
  exact Binary64.ofNat_add_part_near h (by decide) hpart (by decide)

/-- The tenths nearest to the number of seconds are nearest to the span itself: the error of the
number is less than a nanosecond, and the middle between two tenths a whole number of them. -/
theorem total_near_tenths {tenths : Nat} (hnear : d.toSeconds.IsNearTenths tenths) :
    2 * (tenths * 100000000) ≤ 2 * d.total + 100000000 ∧
      2 * d.total ≤ 2 * (tenths * 100000000) + 100000000 := by
  obtain ⟨v, hv, hvalue, hround_low, hround_high⟩ := hnear
  obtain ⟨u, hu, hseconds, hlow, hhigh⟩ := toSeconds_near h
  obtain rfl : v = u := (Binary64.finite.inj (hvalue.symm.trans hseconds)).2
  have hunits := Binary64.unitsPerOne_eq
  have hpos := Binary64.spacing_pos Binary64.unitsPerOne
  have hsecond : second = 1000000000 := rfl
  rw [hsecond] at hlow hhigh
  constructor
  · by_contra! hlt
    have hscaled := Nat.mul_le_mul_right Binary64.unitsPerOne (Nat.succ_le_of_lt hlt)
    linarith
  · by_contra! hlt
    have hscaled := Nat.mul_le_mul_right Binary64.unitsPerOne (Nat.succ_le_of_lt hlt)
    linarith

end Seconds

/-- What the text of a span shows: an amount that is off by less than the lesser of its units, and
tenths only if they are nearest to the number of seconds. -/
structure ShownAs (d : Duration) (shown : Shown) : Prop where
  text_eq : d.text = shown.text
  amount_lt : shown.amount < d.total + shown.unit
  total_lt : d.total < shown.amount + shown.unit
  isNearTenths : ∀ tenths, shown = .seconds tenths → d.toSeconds.IsNearTenths tenths

theorem ShownAs.unique {d : Duration} {a b : Shown} (ha : d.ShownAs a) (hb : d.ShownAs b) :
    a = b :=
  Shown.text_injective (ha.text_eq.symm.trans hb.text_eq)

/-- The last twentieth of a second of the first minute. -/
def IsLate (d : Duration) : Prop := d.seconds = 59 ∧ 950000000 ≤ d.nanoseconds

/-- In the middle between the last tenth of the minute and the next minute, the floating-point
seconds come out a little greater, and so they are shown as sixty. -/
theorem text_of_middle {d : Duration} (hseconds : d.seconds = 59)
    (hnanoseconds : d.nanoseconds = 950000000) : d.text = (Shown.seconds 600).text := by
  obtain ⟨seconds, nanoseconds, hlt⟩ := d
  subst hseconds hnanoseconds
  have htext : (⟨59, 950000000, by decide⟩ : Duration).text = (Shown.seconds 600).text := by
    decide +kernel
  exact htext

section Forms
variable {d : Duration}

theorem exists_shownAs_seconds (h : d.seconds < 60) : ∃ tenths, d.ShownAs (.seconds tenths) ∧
    (¬d.IsLate ∧ tenths < 600 ∨ d.IsLate ∧ tenths = 600) := by
  obtain ⟨u, hu, hseconds, -, -⟩ := toSeconds_near h
  have hnear := Binary64.isNearTenths_roundQuotient hu
  have htext : d.text =
      (Shown.seconds (roundQuotient (u * 10) Binary64.unitsPerOne)).text := by
    rw [text, if_pos h, hseconds, Binary64.textFixed_one]
    rfl
  rw [← hseconds] at hnear
  generalize roundQuotient (u * 10) Binary64.unitsPerOne = tenths at hnear htext
  obtain ⟨hlow, hhigh⟩ := total_near_tenths h hnear
  refine ⟨tenths, ⟨htext, ?_, ?_, ?_⟩, ?_⟩
  · simp only [Shown.amount, Shown.unit]
    omega
  · simp only [Shown.amount, Shown.unit]
    omega
  · rintro _ ⟨⟩
    exact hnear
  · have hlt := d.nanoseconds_lt
    simp only [total, second] at hlow hhigh
    unfold IsLate
    by_cases hmiddle : d.seconds = 59 ∧ d.nanoseconds = 950000000
    · have hsame := htext.symm.trans (text_of_middle hmiddle.1 hmiddle.2)
      have htenths : tenths = 600 := Shown.seconds.inj (Shown.text_injective hsame)
      omega
    · omega

theorem shownAs_minutes (hlow : 60 ≤ d.seconds) (hhigh : d.seconds < 3600) :
    d.ShownAs (.minutes (d.seconds / 60) (d.seconds % 60)) := by
  have hlt := d.nanoseconds_lt
  have htext : d.text = (Shown.minutes (d.seconds / 60) (d.seconds % 60)).text := by
    rw [text, if_neg (by omega), if_pos hhigh]
    rfl
  refine ⟨htext, ?_, ?_, fun _ => nofun⟩
  · simp only [Shown.amount, Shown.unit, total, second]
    omega
  · simp only [Shown.amount, Shown.unit, total, second]
    omega

theorem shownAs_hours (h : 3600 ≤ d.seconds) :
    d.ShownAs (.hours (d.seconds / 3600) (d.seconds % 3600 / 60)) := by
  have hlt := d.nanoseconds_lt
  have htext : d.text = (Shown.hours (d.seconds / 3600) (d.seconds % 3600 / 60)).text := by
    rw [text, if_neg (by omega), if_neg (by omega)]
    rfl
  refine ⟨htext, ?_, ?_, fun _ => nofun⟩
  · simp only [Shown.amount, Shown.unit, total, second]
    omega
  · simp only [Shown.amount, Shown.unit, total, second]
    omega

end Forms

/-- Every span is shown, and only a late one in a form that should have been carried. -/
theorem exists_shownAs (d : Duration) : ∃ shown, d.ShownAs shown ∧
    (¬d.IsLate ∧ shown.IsCarried ∨ d.IsLate ∧ shown = .seconds 600) := by
  rcases Nat.lt_or_ge d.seconds 60 with hseconds | hminutes
  · obtain ⟨tenths, hshown, hcases⟩ := exists_shownAs_seconds hseconds
    refine ⟨.seconds tenths, hshown, ?_⟩
    rcases hcases with hcarried | ⟨hlate, rfl⟩
    · exact .inl hcarried
    · exact .inr ⟨hlate, rfl⟩
  · have hlate : ¬d.IsLate := by
      rintro ⟨hlast, -⟩
      omega
    rcases Nat.lt_or_ge d.seconds 3600 with hhour | hhour
    · refine ⟨_, shownAs_minutes hminutes hhour, .inl ⟨hlate, ?_⟩⟩
      simp only [Shown.IsCarried]
      omega
    · refine ⟨_, shownAs_hours hhour, .inl ⟨hlate, ?_⟩⟩
      simp only [Shown.IsCarried]
      omega

theorem not_isCarried_of_text {d : Duration} (h : d.text = "60.0s") :
    ¬∃ shown, d.ShownAs shown ∧ shown.IsCarried := by
  rintro ⟨shown, hshown, hcarried⟩
  have htext : (Shown.seconds 600).text = "60.0s" := by decide
  obtain rfl : shown = .seconds 600 :=
    Shown.text_injective (hshown.text_eq.symm.trans (h.trans htext.symm))
  exact Nat.lt_irrefl 600 hcarried

/-- The text of a span shows it in one form, off by less than the lesser unit. Each unit is carried
into the next, unless the span ends in the last twentieth of a second of the first minute: only then
it is shown as sixty seconds. -/
theorem carried_unless_late (d : Duration) :
    (∃! shown, d.ShownAs shown) ∧
    ((∃ shown, d.ShownAs shown ∧ shown.IsCarried) ↔ ¬d.IsLate) ∧
    (d.text = "60.0s" ↔ d.IsLate) := by
  obtain ⟨shown, hshown, hcases⟩ := d.exists_shownAs
  refine ⟨⟨shown, hshown, fun other hother => hother.unique hshown⟩, ?_⟩
  rcases hcases with ⟨hlate, hcarried⟩ | ⟨hlate, rfl⟩
  · have hexists : ∃ shown, d.ShownAs shown ∧ shown.IsCarried := ⟨shown, hshown, hcarried⟩
    refine ⟨iff_of_true hexists hlate, iff_of_false ?_ hlate⟩
    intro htext
    exact not_isCarried_of_text htext hexists
  · have htext : d.text = "60.0s" := by
      rw [hshown.text_eq]
      decide
    exact ⟨iff_of_false (not_isCarried_of_text htext) (not_not_intro hlate),
      iff_of_true htext hlate⟩

/-- A nanosecond before the end of the first minute, sixty seconds are shown and no minute. -/
theorem minute_shown_in_seconds :
    ¬∃ shown, (⟨59, 999999999, by decide⟩ : Duration).ShownAs shown ∧ shown.IsCarried :=
  not_isCarried_of_text (by decide +kernel)

end Duration
end Lexicon
