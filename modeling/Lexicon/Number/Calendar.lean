/-! Dates and times as text. -/

namespace Lexicon

structure Date where
  year : Nat
  month : Nat
  day : Nat
  deriving Repr, DecidableEq

/-- The date that lies a number of days after the first of January 1970. Years are counted from
March on, in periods of 400 years, so that a leap day ends its year. -/
def Date.ofDays (days : Nat) : Date :=
  let day := days + 719468
  let inPeriod := day % 146097
  let year := (inPeriod - inPeriod / 1460 + inPeriod / 36524 - inPeriod / 146096) / 365
  let inYear := inPeriod - (365 * year + year / 4 - year / 100)
  let month := (5 * inYear + 2) / 153
  let year := year + 400 * (day / 146097)
  { year := if month < 10 then year else year + 1
    month := if month < 10 then month + 3 else month - 9
    day := inYear - (153 * month + 2) / 5 + 1 }

def digits (width n : Nat) : String :=
  let text := toString n
  String.ofList (List.replicate (width - text.length) '0') ++ text

def Date.text (d : Date) : String :=
  digits 4 d.year ++ "-" ++ digits 2 d.month ++ "-" ++ digits 2 d.day

/-- Date and time of day in universal time, some seconds after the start of 1970. -/
def timeText (seconds : Nat) : String :=
  let second := seconds % 86400
  (Date.ofDays (seconds / 86400)).text ++ "T" ++ digits 2 (second / 3600) ++ ":"
    ++ digits 2 (second / 60 % 60) ++ ":" ++ digits 2 (second % 60) ++ "Z"

end Lexicon
