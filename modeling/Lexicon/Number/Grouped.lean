/-! Counts in groups of three digits. -/

namespace Lexicon

/-- Puts a comma before every digit that a multiple of three digits follows, the first apart. -/
def groupDigits : List Char → List Char
  | [] => []
  | [c] => [c]
  | c :: d :: ds => if (ds.length + 1) % 3 = 0 then c :: ',' :: groupDigits (d :: ds)
    else c :: groupDigits (d :: ds)

def groupedText (n : Nat) : String := String.ofList (groupDigits (Nat.toDigits 10 n))

end Lexicon
