import Lexicon.Files.Path

/-! The refusals of the system and their messages. -/

namespace Lexicon

inductive Refusal where
  | notFound
  | busy
  | alreadyExists
  | noDevice
  | notDirectory
  | isDirectory
  | invalid
  | nameTooLong
  | nulInName
  deriving Repr, DecidableEq

def Refusal.message : Refusal → String
  | notFound => "No such file or directory (os error 2)"
  | busy => "Device or resource busy (os error 16)"
  | alreadyExists => "File exists (os error 17)"
  | noDevice => "No such device (os error 19)"
  | notDirectory => "Not a directory (os error 20)"
  | isDirectory => "Is a directory (os error 21)"
  | invalid => "Invalid argument (os error 22)"
  | nameTooLong => "File name too long (os error 36)"
  | nulInName => "file name contained an unexpected NUL byte"

/-- A refusal, with the path of the temporary file if it struck one. -/
structure IoError where
  refusal : Refusal
  temporary : Option Path := none
  deriving Repr, DecidableEq

def IoError.message (e : IoError) : String :=
  match e.temporary with
  | none => e.refusal.message
  | some p => e.refusal.message ++ " at path " ++ p.quoted

end Lexicon
