import Lexicon.CommandLine.Options

/-! The words of a command line, read from left to right. An option whose value is a word of its own
is checked when the next flag is reached. -/

namespace Lexicon

/-- Why the options of a command line are not carried out: they are refused, or something is asked
for in their stead. -/
inductive Interruption where
  | refused (error : UsageError)
  | help (detailed : Bool)
  | version
  deriving Repr, DecidableEq

namespace CommandLine

/-- An option that has been read but not yet checked. -/
inductive Pending where
  | awaiting (s : Setting)
  | given (s : Setting) (value : Bytes)
  deriving Repr, DecidableEq

structure State where
  options : Options := {}
  used : List Flag := []
  pending : Option Pending := none

namespace State

/-- Notes the use of a flag, which may be used once. -/
def use (st : State) (f : Flag) : Except UsageError State :=
  if f ∈ st.used then .error (.repeated f) else .ok { st with used := f :: st.used }

def assign (st : State) (s : Setting) (value : Bytes) : Except UsageError State := do
  let st ← st.use (.setting s)
  let options ← st.options.set s value
  .ok { st with options }

/-- Checks the option that was read last. Its value stays unchecked until the next flag. -/
def settle (st : State) : Except UsageError State :=
  match st.pending with
  | none => .ok st
  | some (.awaiting s) => .error (.missingValue s)
  | some (.given s value) => { st with pending := none }.assign s value

/-- Checks the last option and puts another in its place. -/
def suspend (st : State) (p : Pending) : Except Interruption State :=
  (st.settle.map fun st => { st with pending := some p }).mapError .refused

def attach (st : State) (s : Setting) (value : Bytes) : Except Interruption State :=
  (st.settle.bind fun st => st.assign s value).mapError .refused

def flip (st : State) (s : Switch) : Except Interruption State :=
  (st.settle.bind fun st => (st.use (.toggle s)).map fun st =>
    { st with options := st.options.turnOn s }).mapError .refused

/-- Checks the last option and then stops for another flag. -/
def stop (st : State) (i : Interruption) : Except Interruption State :=
  match st.settle with
  | .ok _ => .error i
  | .error e => .error (.refused e)

/-- Refuses an argument, whatever is still unchecked. -/
def reject (argument : Bytes) : Except Interruption State :=
  .error (.refused (.unknownArgument (utf8.decode argument)))

def dash : UInt8 := 0x2D
def equals : UInt8 := 0x3D

/-- Reads what follows two dashes: the name of a flag, and a value behind an equals sign. -/
def readLong (st : State) (word : Bytes) : Except Interruption State :=
  let name := word.takeWhile (· != equals)
  let value := (word.dropWhile (· != equals)).tail
  let hasValue := word.contains equals
  match (utf8.decode? name).bind Flag.ofName? with
  | none => reject (dash :: dash :: name)
  | some f =>
    match f with
    | .setting s => if hasValue then st.attach s value else st.suspend (.awaiting s)
    | _ =>
      if hasValue then .error (.refused (.unexpectedValue f (utf8.decode value)))
      else match f with
        | .toggle s => st.flip s
        | .help => st.stop (.help true)
        | _ => st.stop .version

/-- The value in what follows the letter of an option; an equals sign before it is no part of it. -/
def attachedValue : Bytes → Bytes
  | b :: bs => if b = equals then bs else b :: bs
  | [] => []

/-- Reads what follows one dash: letters of flags, and the value of the last one. -/
def readLetters (st : State) : Bytes → Except Interruption State
  | [] => .ok st
  | b :: bs =>
    match (Utf8.read b bs).1 with
    | .malformed _ => reject (dash :: b :: bs)
    | .scalar c =>
      let rest := (Utf8.read b bs).2
      match Flag.ofLetter? c with
      | none => reject (dash :: Utf8.encode (String.singleton c))
      | some (.setting s) =>
        if rest = [] then st.suspend (.awaiting s) else st.attach s (attachedValue rest)
      | some (.toggle s) => st.flip s >>= fun st => readLetters st rest
      | some .help => st.stop (.help false)
      | some .version => st.stop .version
termination_by bs => bs.length
decreasing_by simpa using Nat.lt_succ_of_le (Utf8.length_read_le b bs)

/-- Reads a word that is no flag. There is no place for it but behind an option. -/
def readPlain (st : State) (word : Bytes) : Except Interruption State :=
  match st.pending with
  | some (.awaiting s) => .ok { st with pending := some (.given s word) }
  | _ => reject word

def readWord (st : State) (word : Bytes) : Except Interruption State :=
  match word with
  | 0x2D :: 0x2D :: rest => st.readLong rest
  | 0x2D :: b :: rest => st.readLetters (b :: rest)
  | _ => st.readPlain word

/-- Reads words up to the end. After two dashes alone no flag is known any more. -/
def readWords (st : State) : List Bytes → Except Interruption State
  | [] => st.settle.mapError .refused
  | word :: rest =>
    if word = [dash, dash] then
      match rest with
      | [] => st.settle.mapError .refused
      | argument :: _ => reject argument
    else st.readWord word >>= fun st => readWords st rest

end State

/-- The first problem counts. -/
def parse (words : List Bytes) : Except Interruption Options :=
  (({} : State).readWords words).map (·.options)

end CommandLine
end Lexicon
