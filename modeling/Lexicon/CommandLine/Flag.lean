/-! The flags of the command line and their names. -/

namespace Lexicon

inductive Setting where
  | input
  | output
  | delimiter
  | ratioThreshold
  | lengthThreshold
  | termsName
  | varsName
  | constName
  deriving Repr, DecidableEq

inductive Switch where
  | stats
  | quiet
  | verbose
  | dryRun
  deriving Repr, DecidableEq

inductive Flag where
  | setting (s : Setting)
  | toggle (s : Switch)
  | help
  | version
  deriving Repr, DecidableEq

namespace Setting

def all : List Setting :=
  [input, output, delimiter, ratioThreshold, lengthThreshold, termsName, varsName, constName]

def name : Setting → String
  | input => "input"
  | output => "output"
  | delimiter => "delimiter"
  | ratioThreshold => "ratio-threshold"
  | lengthThreshold => "length-threshold"
  | termsName => "terms-name"
  | varsName => "vars-name"
  | constName => "const-name"

def letter? : Setting → Option Char
  | input => some 'i'
  | output => some 'o'
  | delimiter => some 'd'
  | _ => none

/-- What stands for the value in messages. -/
def placeholder : Setting → String
  | input => "<PATH>"
  | output => "<DIR>"
  | delimiter => "<CHAR>"
  | ratioThreshold => "<RATIO>"
  | lengthThreshold => "<LEN>"
  | termsName => "<NAME>"
  | varsName => "<NAME>"
  | constName => "<NAME>"

end Setting

namespace Switch

def all : List Switch := [stats, quiet, verbose, dryRun]

def name : Switch → String
  | stats => "stats"
  | quiet => "quiet"
  | verbose => "verbose"
  | dryRun => "dry-run"

def letter? : Switch → Option Char
  | quiet => some 'q'
  | verbose => some 'v'
  | _ => none

end Switch

namespace Flag

/-- The flags in the order of the help text. -/
def all : List Flag := Setting.all.map setting ++ Switch.all.map toggle ++ [help, version]

def name : Flag → String
  | setting s => s.name
  | toggle s => s.name
  | help => "help"
  | version => "version"

def letter? : Flag → Option Char
  | setting s => s.letter?
  | toggle s => s.letter?
  | help => some 'h'
  | version => some 'V'

def usage (f : Flag) : String :=
  "--" ++ f.name ++ match f with
    | setting s => " " ++ s.placeholder
    | _ => ""

def ofName? (name : String) : Option Flag := all.find? fun f => f.name = name

def ofLetter? (c : Char) : Option Flag := all.find? fun f => f.letter? = some c

end Flag
end Lexicon
