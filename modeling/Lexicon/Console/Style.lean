/-! Colours of terminal text. -/

namespace Lexicon

inductive Style where
  | green
  | yellow
  | red
  | cyan
  | boldGreen
  deriving Repr, DecidableEq

namespace Style

def reset : String := "\x1b[0m"

def start : Style → String
  | green => "\x1b[32m"
  | yellow => "\x1b[33m"
  | red => "\x1b[31m"
  | cyan => "\x1b[36m"
  | boldGreen => "\x1b[1;32m"

/-- Where a style ends within the text, this one is resumed. -/
def paint (s : Style) (color : Bool) (text : String) : String :=
  if color then s.start ++ (reset ++ s.start).intercalate (text.splitOn reset) ++ reset else text

end Style
end Lexicon
