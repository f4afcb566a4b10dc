import Lexicon.Number.Decimal

/-! Spans of time as text. -/

namespace Lexicon

structure Duration where
  seconds : Nat
  nanoseconds : Nat := 0
  nanoseconds_lt : nanoseconds < 1000000000 := by decide
  deriving Repr, DecidableEq

namespace Duration

def second : Nat := 1000000000

/-- The number of seconds that no span of time reaches. -/
def limit : Nat := UInt64.size

theorem mod_second_lt (nanoseconds : Nat) : nanoseconds % second < second :=
  Nat.mod_lt _ (by decide)

/-- So many seconds and nanoseconds together, if that is a span of time. -/
def ofParts? (seconds nanoseconds : Nat) : Option Duration :=
  let whole := seconds + nanoseconds / second
  if whole < limit then some ⟨whole, nanoseconds % second, mod_second_lt nanoseconds⟩ else none

def ofNanoseconds (nanoseconds : Nat) : Duration :=
  ⟨nanoseconds / second, nanoseconds % second, mod_second_lt nanoseconds⟩

def toSeconds (d : Duration) : Binary64 :=
  Binary64.ofNat d.seconds + Binary64.ofNat d.nanoseconds / Binary64.ofNat second

/-- Tenths of seconds below one minute, then whole minutes and seconds, then whole hours and
minutes. -/
def text (d : Duration) : String :=
  if d.seconds < 60 then d.toSeconds.textFixed 1 ++ "s"
  else if d.seconds < 3600 then s!"{d.seconds / 60}m {d.seconds % 60}s"
  else s!"{d.seconds / 3600}h {d.seconds % 3600 / 60}m"

/-- How many of `count` things passed per second; none if no time passed. -/
def rate (d : Duration) (count : Nat) : Binary64 :=
  if Binary64.lt (.zero false) d.toSeconds then Binary64.ofNat count / d.toSeconds else .zero false

end Duration
end Lexicon
