import Lexicon.Number.Decimal

/-! Sizes of files as text. -/

namespace Lexicon
namespace FileSize

/-- The least sizes shown in MB, GB, TB, PB and EB, each a little above a power of 1024. -/
def steps : List Nat :=
  [1048577, 1073741826, 1099511629538, 1125899909097501, 1152921507377637248]

/-- The power of 1000 by which a size of at least 1000 bytes is divided. -/
def exponent (bytes : Nat) : Nat := 1 + steps.countP (· ≤ bytes)

def unit (exponent : Nat) : String :=
  match exponent with
  | 1 => "KB"
  | 2 => "MB"
  | 3 => "GB"
  | 4 => "TB"
  | 5 => "PB"
  | _ => "EB"

def text (bytes : Nat) : String :=
  if bytes < 1000 then s!"{bytes} B"
  else
    let e := exponent bytes
    let amount := Binary64.ofNat bytes / Binary64.ofNat (Nat.pow 1000 e)
    amount.textFixed 1 ++ " " ++ unit e

end FileSize
end Lexicon
