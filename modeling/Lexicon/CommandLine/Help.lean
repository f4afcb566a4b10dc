import Lexicon.CommandLine.Options
import Lexicon.Text.Padded

/-! The help texts, made from the table of flags. -/

namespace Lexicon
namespace Help

def summary : String := "Generate term wordlists from a corpus of symbol names"

def version : String := "jargon-wordlist 1.0.0\n"

def usage : String := "Usage: jargon-wordlist [OPTIONS]\n\nOptions:\n"

def introduction : String :=
  summary ++ ".

Each line of the corpus is one identifier (e.g. a kernel symbol). Identifiers
are split on the delimiter into terms; mostly-numeric terms longer than the
length threshold are dropped. Three sorted, deduplicated lists are written:

    terms.txt   every retained term
    vars.txt    terms containing a lowercase letter
    const.txt   terms without a lowercase letter

EXAMPLES:
    # Default run: symbol_names.txt -> terms.txt, vars.txt, const.txt
    jargon-wordlist

    # Different corpus and output directory
    jargon-wordlist -i kallsyms.txt -o wordlists/

    # Split on dots, drop any term over 4 chars that is >30% digits
    jargon-wordlist -d . --ratio-threshold 0.3 --length-threshold 4

"

def describeSetting : Setting → String
  | .input => "Corpus file, one name per line"
  | .output => "Output directory (default: current directory)"
  | .delimiter => "Delimiter between terms of a name"
  | .ratioThreshold => "Drop terms whose digit ratio is strictly greater than this"
  | .lengthThreshold => "Only apply the ratio test to terms longer than this"
  | .termsName => "File name for the list of all terms"
  | .varsName => "File name for the variable-style list"
  | .constName => "File name for the constant-style list"

def describeSwitch : Switch → String
  | .stats => "Show detailed statistics"
  | .quiet => "Quiet mode - minimal output"
  | .verbose => "Verbose mode - detailed logging"
  | .dryRun => "Dry run - build the wordlists without writing files"

def describe (detailed : Bool) : Flag → String
  | .setting s => describeSetting s
  | .toggle s => describeSwitch s
  | .help => if detailed then "Print help (see a summary with '-h')"
    else "Print help (see more with '--help')"
  | .version => "Print version"

/-- The value that an option has if it is not given, unless none can be written. -/
def defaultValue? : Flag → Option String
  | .setting s =>
    let o : Options := {}
    match s with
    | .input => some (utf8.decode o.input.bytes)
    | .output => none
    | .delimiter => some (String.singleton o.delimiter)
    | .ratioThreshold => some o.ratioThreshold.text
    | .lengthThreshold => some (toString o.lengthThreshold)
    | .termsName => some o.names.terms
    | .varsName => some o.names.vars
    | .constName => some o.names.consts
  | _ => none

def defaultText? (f : Flag) : Option String :=
  (defaultValue? f).map fun value => "[default: " ++ value ++ "]"

/-- The forms of a flag, the long ones below each other. -/
def forms (f : Flag) : String :=
  match f.letter? with
  | some c => "  -" ++ String.singleton c ++ ", " ++ f.usage
  | none => "      " ++ f.usage

def line (f : Flag) : String :=
  let value := match defaultText? f with
    | some text => " " ++ text
    | none => ""
  padded 33 (forms f) ++ describe false f ++ value ++ "\n"

def indented (text : String) : String := "          " ++ text ++ "\n"

def paragraph (f : Flag) : String :=
  let value := match defaultText? f with
    | some text => indented "" ++ indented text
    | none => ""
  forms f ++ "\n" ++ indented (describe true f) ++ value

def text (detailed : Bool) : String :=
  if detailed then introduction ++ "\n" ++ usage ++ "\n".intercalate (Flag.all.map paragraph)
  else summary ++ "\n\n" ++ usage ++ String.join (Flag.all.map line)

end Help
end Lexicon
