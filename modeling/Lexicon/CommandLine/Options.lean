import Lexicon.CommandLine.UsageError
import Lexicon.Config

/-! The options of a run and how their values are read. -/

namespace Lexicon

structure Options where
  input : Path := .ofString "symbol_names.txt"
  output : Option Path := none
  delimiter : Char := '_'
  ratioThreshold : Binary64 := .ofQuotient false 1 2
  lengthThreshold : Nat := 3
  names : FileNames := {}
  stats : Bool := false
  quiet : Bool := false
  verbose : Bool := false
  dryRun : Bool := false

namespace Options

/-- The number of length thresholds that can be given. -/
def lengthLimit : Nat := UInt64.size

def readDelimiter (text : String) : Except ValueFault Char :=
  match text.toList with
  | [] => .error .noCharacter
  | [c] => .ok c
  | _ => .error .manyCharacters

/-- Any bytes are a path, but for none at all. -/
def readPath (s : Setting) (value : Bytes) : Except UsageError Path :=
  if value = [] then .error (.missingValue s) else .ok ⟨value⟩

def readText {α : Type} (s : Setting) (value : Bytes) (read : String → Except ValueFault α) :
    Except UsageError α :=
  match utf8.decode? value with
  | none => .error .invalidUtf8
  | some text => (read text).mapError (.invalidValue s text)

def set (o : Options) (s : Setting) (value : Bytes) : Except UsageError Options :=
  match s with
  | .input => (readPath s value).map fun p => { o with input := p }
  | .output => (readPath s value).map fun p => { o with output := some p }
  | .delimiter => (readText s value readDelimiter).map fun c => { o with delimiter := c }
  | .ratioThreshold =>
    (readText s value fun t => (Binary64.read t).mapError .ratio).map
      fun x => { o with ratioThreshold := x }
  | .lengthThreshold =>
    (readText s value fun t => (Natural.read lengthLimit t).mapError .length).map
      fun n => { o with lengthThreshold := n }
  | .termsName =>
    (readText s value .ok).map fun t => { o with names := { o.names with terms := t } }
  | .varsName =>
    (readText s value .ok).map fun t => { o with names := { o.names with vars := t } }
  | .constName =>
    (readText s value .ok).map fun t => { o with names := { o.names with consts := t } }

def turnOn (o : Options) : Switch → Options
  | .stats => { o with stats := true }
  | .quiet => { o with quiet := true }
  | .verbose => { o with verbose := true }
  | .dryRun => { o with dryRun := true }

def outputDirectory (o : Options) : Path := o.output.getD (.ofString ".")

def toConfig (o : Options) : Config where
  input := o.input
  outputDirectory := o.outputDirectory
  delimiter := o.delimiter
  noise := ⟨o.ratioThreshold, o.lengthThreshold⟩
  names := o.names
  dryRun := o.dryRun
  quiet := o.quiet
  verbose := o.verbose
  showStats := o.stats

def config (o : Options) : Except Failure Config :=
  match o.toConfig.fault? with
  | some fault => .error (.misconfigured fault)
  | none => .ok o.toConfig

end Options
end Lexicon
