import Lexicon.Failure
import Lexicon.Noise
import Lexicon.Text.Blank

/-! What a run is asked to do, and what may be wrong with it. -/

namespace Lexicon

def NoiseRule.fault? (f : NoiseRule) : Option ConfigFault :=
  if f.isSound then none else some (.ratioOutOfRange f.ratioThreshold)

/-- Every list needs a name that is not blank, and no two names may be the same text. -/
def FileNames.fault? (names : FileNames) : Option ConfigFault :=
  match ListKind.all.find? fun kind => isBlank (names.get kind) with
  | some kind => some (.blankName kind)
  | none =>
    if names.terms = names.vars ∨ names.terms = names.consts ∨ names.vars = names.consts then
      some .equalNames
    else none

structure Config where
  input : Path := .ofString "symbol_names.txt"
  outputDirectory : Path := .ofString "."
  delimiter : Char := '_'
  noise : NoiseRule := {}
  names : FileNames := {}
  dryRun : Bool := false
  quiet : Bool := false
  verbose : Bool := false
  showStats : Bool := false

def Config.fault? (c : Config) : Option ConfigFault := c.noise.fault? <|> c.names.fault?

end Lexicon
