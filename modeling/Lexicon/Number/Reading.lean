import Lexicon.Number.Decimal

/-! Numbers read from text. -/

namespace Lexicon

def digitsValue (ds : List Char) : Nat := ds.foldl (fun n c => 10 * n + (c.toNat - 48)) 0

namespace Binary64

inductive ReadError where
  | empty
  | malformed
  deriving Repr, DecidableEq

def ReadError.message : ReadError → String
  | empty => "cannot parse float from empty string"
  | malformed => "invalid float literal"

/-- No exponent needs more digits than reach this bound; those that follow say nothing. -/
def exponentBound : Nat := 65536

/-- The value of the digits of an exponent, up to the one that reaches the bound. -/
def exponentValue (ds : List Char) : Nat :=
  ds.foldl (fun n c => if n < exponentBound then 10 * n + (c.toNat - 48) else n) 0

/-- A signed whole number that ends the text. -/
def readExponent (cs : List Char) : Option Int :=
  let (negative, ds) := match cs with
    | '-' :: ds => (true, ds)
    | '+' :: ds => (false, ds)
    | ds => (false, ds)
  if ds.isEmpty || !ds.all Char.isDigit then none
  else some (if negative then -(exponentValue ds : Int) else exponentValue ds)

/-- Digits with an optional point and an optional exponent. One digit has to stand at the point. -/
def readDecimal (cs : List Char) : Option Decimal :=
  let whole := cs.takeWhile Char.isDigit
  let rest := cs.dropWhile Char.isDigit
  let (places, rest) := match rest with
    | '.' :: more => (more.takeWhile Char.isDigit, more.dropWhile Char.isDigit)
    | _ => ([], rest)
  let scaled (e : Int) : Decimal := ⟨digitsValue (whole ++ places), e - places.length⟩
  if whole.isEmpty && places.isEmpty then none
  else match rest with
    | [] => some (scaled 0)
    | c :: more => if c = 'e' || c = 'E' then (readExponent more).map scaled else none

/-- The words for infinity and NaN, in any mixture of cases. -/
def readWord (negative : Bool) (cs : List Char) : Option Binary64 :=
  let word := String.ofList (cs.map Char.toLower)
  if word = "nan" then some nan
  else if word = "inf" || word = "infinity" then some (infinite negative)
  else none

/-- Reads a whole text as the number nearest to what it says. -/
def read (s : String) : Except ReadError Binary64 :=
  let unsigned (negative : Bool) (cs : List Char) : Except ReadError Binary64 :=
    match readDecimal cs with
    | some d => .ok (d.toBinary64 negative)
    | none =>
      match readWord negative cs with
      | some x => .ok x
      | none => .error .malformed
  match s.toList with
  | [] => .error .empty
  | '-' :: cs => unsigned true cs
  | '+' :: cs => unsigned false cs
  | cs => unsigned false cs

end Binary64

namespace Natural

inductive ReadError where
  | empty
  | invalidDigit
  | tooLarge
  deriving Repr, DecidableEq

def ReadError.message : ReadError → String
  | empty => "cannot parse integer from empty string"
  | invalidDigit => "invalid digit found in string"
  | tooLarge => "number too large to fit in target type"

/-- Reads digits behind the value of those before them; the first fault from the left counts. -/
def readDigits (limit value : Nat) : List Char → Except ReadError Nat
  | [] => .ok value
  | c :: cs =>
    if !c.isDigit then .error .invalidDigit
    else
      let next := 10 * value + (c.toNat - 48)
      if next < limit then readDigits limit next cs else .error .tooLarge

/-- Reads a whole text as a natural number below `limit`. A plus sign may precede the digits. -/
def read (limit : Nat) (s : String) : Except ReadError Nat :=
  match s.toList with
  | [] => .error .empty
  | ['+'] => .error .invalidDigit
  | '+' :: cs => readDigits limit 0 cs
  | cs => readDigits limit 0 cs

end Natural
end Lexicon
