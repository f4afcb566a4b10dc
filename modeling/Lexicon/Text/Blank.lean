/-! White space. -/

namespace Lexicon
namespace Blank

def ranges : List (Nat × Nat) :=
  [(0x9, 0xD), (0x20, 0x20), (0x85, 0x85), (0xA0, 0xA0), (0x1680, 0x1680), (0x2000, 0x200A),
   (0x2028, 0x2029), (0x202F, 0x202F), (0x205F, 0x205F), (0x3000, 0x3000)]

end Blank

def isWhiteSpace (c : Char) : Bool :=
  Blank.ranges.any fun (a, b) => a ≤ c.toNat && c.toNat ≤ b

/-- Whether nothing is left of a text once white space is trimmed. -/
def isBlank (s : String) : Bool := s.toList.all isWhiteSpace

def trimmed (s : String) : String :=
  String.ofList ((s.toList.dropWhile isWhiteSpace).reverse.dropWhile isWhiteSpace).reverse

end Lexicon
