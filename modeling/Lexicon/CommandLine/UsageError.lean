import Lexicon.CommandLine.Flag
import Lexicon.Number.Reading
import Lexicon.Text.Terminal

/-! The reasons for which a command line is refused, with their messages. -/

namespace Lexicon

inductive ValueFault where
  | noCharacter
  | manyCharacters
  | ratio (cause : Binary64.ReadError)
  | length (cause : Natural.ReadError)
  deriving Repr, DecidableEq

def ValueFault.message : ValueFault → String
  | noCharacter => "cannot parse char from empty string"
  | manyCharacters => "too many characters in string"
  | ratio cause => cause.message
  | length cause => cause.message

inductive UsageError where
  | unknownArgument (argument : String)
  | missingValue (setting : Setting)
  | repeated (flag : Flag)
  | unexpectedValue (flag : Flag) (value : String)
  | invalidUtf8
  | invalidValue (setting : Setting) (value : String) (fault : ValueFault)
  deriving Repr, DecidableEq

def firstLine (s : String) : String :=
  let line := s.toList.takeWhile (· != '\n')
  if line.length < s.length ∧ line.getLast? = some '\r' then String.ofList line.dropLast
  else String.ofList line

namespace UsageError

/-- What is wrong, with the arguments in plain text. -/
def explanation (plain : String → String) : UsageError → String
  | unknownArgument argument => "unexpected argument '" ++ plain argument ++ "' found"
  | missingValue s =>
    "a value is required for '" ++ (Flag.setting s).usage ++ "' but none was supplied"
  | repeated f => "the argument '" ++ f.usage ++ "' cannot be used multiple times"
  | unexpectedValue f value =>
    "unexpected value '" ++ plain value ++ "' for '" ++ f.usage ++ "' found; no more were expected"
  | invalidUtf8 => "invalid UTF-8 was detected in one or more arguments"
  | invalidValue s value fault =>
    "invalid value '" ++ plain value ++ "' for '" ++ (Flag.setting s).usage ++ "': "
      ++ fault.message

/-- One line. A line break in an argument ends it. -/
def message (e : UsageError) : String := firstLine ("error: " ++ e.explanation plainText)

def printed (e : UsageError) : String := firstLine ("error: " ++ e.explanation plainStream)

end UsageError
end Lexicon
