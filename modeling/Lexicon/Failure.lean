import Lexicon.Files.IoError
import Lexicon.Number.Decimal
import Lexicon.Wordlist

/-! What ends a run before its time. -/

namespace Lexicon

inductive ConfigFault where
  | ratioOutOfRange (ratio : Binary64)
  | blankName (kind : ListKind)
  | equalNames

def ConfigFault.message : ConfigFault → String
  | ratioOutOfRange ratio => "ratio threshold must be within [0, 1], got " ++ ratio.text
  | blankName kind => s!"output name for {kind.name} list is empty"
  | equalNames => "output names for the three lists must differ"

inductive Failure where
  | unreadable (path : Path) (cause : IoError)
  | unwritable (path : Path) (cause : IoError)
  | misconfigured (fault : ConfigFault)

namespace Failure

def message : Failure → String
  | unreadable path _ => "cannot read corpus " ++ path.quoted
  | unwritable path _ => "cannot write wordlist " ++ path.quoted
  | misconfigured fault => "invalid configuration: " ++ fault.message

def cause? : Failure → Option IoError
  | unreadable _ cause => some cause
  | unwritable _ cause => some cause
  | misconfigured _ => none

end Failure
end Lexicon
