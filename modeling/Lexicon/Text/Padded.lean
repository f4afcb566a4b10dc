/-! Texts in columns. -/

namespace Lexicon

/-- A text filled up with spaces to a width that it may exceed. -/
def padded (width : Nat) (s : String) : String :=
  s ++ String.ofList (List.replicate (width - s.length) ' ')

end Lexicon
