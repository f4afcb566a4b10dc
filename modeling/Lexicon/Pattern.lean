import Lexicon.Pattern.Meaning
import Lexicon.Pattern.Parser

/-! Patterns of texts: how one is written, and in which texts it occurs. -/

namespace Lexicon
namespace Pattern

inductive Refusal where
  | malformed (pattern : String) (f : Fault)
  | tooLarge
  deriving Repr, DecidableEq

/-- How many bytes the automaton of a pattern may take. -/
def sizeLimit : Nat := 10485760

def Refusal.message : Refusal → String
  | malformed pattern f => f.report pattern
  | tooLarge => s!"Compiled regex exceeds size limit of {sizeLimit} bytes."

def read (pattern : String) : Except Refusal Regex :=
  match Node.read pattern >>= (·.meaning {}) with
  | .error f => .error (.malformed pattern f)
  | .ok (a, _) => if Size.whole a.size ≤ sizeLimit then .ok a.regex else .error .tooLarge

end Pattern
end Lexicon
