import Std.Data.ExtTreeMap
import Lexicon.Files.IoError

/-! Files and directories below one root, and what the system refuses to do with them. -/

namespace Lexicon

/-- Where an entry stands: the names on the way down from the root. -/
abbrev Location := List Bytes

inductive Entry where
  | file (content : Bytes)
  | directory
  deriving Repr, DecidableEq

/-- A temporary file. Its name is fresh and known to its writer alone, who finds it by number. -/
structure Temporary where
  number : Nat
  directory : Location
  deriving Repr, DecidableEq

structure Disk where
  entries : Std.ExtTreeMap Location Entry := ∅
  temporaries : List Temporary := []
  /-- The number of the next temporary file. -/
  nextNumber : Nat := 0
  workingDirectory : Location := []
  /-- The working directory as it is written in messages. -/
  workingPath : Path := .ofString "/"

namespace Disk

def entry? (d : Disk) (l : Location) : Option Entry :=
  if l = [] then some .directory else d.entries[l]?

def put (d : Disk) (l : Location) (e : Entry) : Disk := { d with entries := d.entries.insert l e }

def toList (d : Disk) : List (Location × Entry) := d.entries.toList

/-- The entries that are new or differ from what they were. -/
def changes (before after : Disk) : List (Location × Entry) :=
  after.toList.filter fun change => before.entry? change.1 != some change.2

/-- The longest name that a directory can hold, and the longest path that is looked up. -/
def nameLimit : Nat := 255
def pathLimit : Nat := 4095

/-- One step of a path from a location. Only a directory leads anywhere, even to itself. -/
def enter (d : Disk) (l : Location) (segment : Bytes) : Except Refusal Location :=
  match d.entry? l with
  | none => .error .notFound
  | some (.file _) => .error .notDirectory
  | some .directory =>
    if Path.isIdle segment then .ok l
    else if segment = [Path.dot, Path.dot] then .ok l.dropLast
    else if nameLimit < segment.length then .error .nameTooLong
    else if (d.entry? (l ++ [segment])).isSome then .ok (l ++ [segment])
    else .error .notFound

def walk (d : Disk) (absolute : Bool) (segments : List Bytes) : Except Refusal Location :=
  segments.foldlM d.enter (if absolute then [] else d.workingDirectory)

def refused? (p : Path) : Option Refusal :=
  if p.bytes.contains 0 then some .nulInName
  else if p.bytes = [] then some .notFound
  else if pathLimit < p.bytes.length then some .nameTooLong
  else none

def resolve (d : Disk) (p : Path) : Except Refusal Location :=
  match refused? p with
  | some r => .error r
  | none => d.walk p.isAbsolute p.segments

def exists? (d : Disk) (p : Path) : Bool := (d.resolve p).isOk

def isDirectory (d : Disk) (p : Path) : Bool :=
  match d.resolve p with
  | .ok l => d.entry? l == some .directory
  | .error _ => false

/-- The content of a file. A directory can be opened, but its bytes cannot be had. -/
def read (d : Disk) (p : Path) : Except Refusal Bytes := do
  let l ← d.resolve p
  match d.entry? l with
  | some (.file content) => .ok content
  | some .directory => .error .noDevice
  | none => .error .notFound

/-- What a path names for an operation that makes or replaces an entry: a name in a directory,
perhaps with a slash after it, or a directory that is not called by its name. -/
inductive Target where
  | entry (directory : Location) (name : Bytes) (slash : Bool)
  | unnamed
  deriving Repr, DecidableEq

def target (d : Disk) (p : Path) : Except Refusal Target :=
  match refused? p with
  | some r => .error r
  | none =>
    match p.segments.reverse.dropWhile (· == []) with
    | [] => .ok .unnamed
    | name :: before => do
      let l ← d.walk p.isAbsolute before.reverse
      let l ← d.enter l []
      if name = [Path.dot] ∨ name = [Path.dot, Path.dot] then .ok .unnamed
      else .ok (.entry l name (p.bytes.getLast? == some Path.slash))

def createDirectory (d : Disk) (p : Path) : Except Refusal Disk := do
  match ← d.target p with
  | .unnamed => .error .alreadyExists
  | .entry l name _ =>
    if nameLimit < name.length then .error .nameTooLong
    else if (d.entry? (l ++ [name])).isSome then .error .alreadyExists
    else .ok (d.put (l ++ [name]) .directory)

def ensureDirectory (d : Disk) (p : Path) : Except Refusal Disk :=
  match d.createDirectory p with
  | .error .alreadyExists => if d.isDirectory p then .ok d else .error .alreadyExists
  | result => result

/-- Creates the first of some nested directories, which are given from the innermost outwards, and
those of the others that it needs. What was created before a failure stays. -/
def createNested (d : Disk) : List Path → Disk × Option Refusal
  | [] => (d, none)
  | p :: outer =>
    if p.parents = [] then (d, none)
    else match d.ensureDirectory p with
      | .ok d => (d, none)
      | .error .notFound =>
        match d.createNested outer with
        | (d, some r) => (d, some r)
        | (d, none) =>
          match d.ensureDirectory p with
          | .ok d => (d, none)
          | .error r => (d, some r)
      | .error r => (d, some r)

def createDirectories (d : Disk) (p : Path) : Disk × Option Refusal :=
  d.createNested (p :: p.parents)

/-- The path of a temporary file in messages, with a placeholder for the fresh part of its name. -/
def temporaryPath (d : Disk) (directory : Path) : Path :=
  (d.workingPath.join directory).join (.ofString ".tmpXXXXXX")

/-- Creates a temporary file in a directory and answers its number. Its path is looked up from the
root, so that it is longer than it is written. -/
def createTemporary (d : Disk) (directory : Path) : Except Refusal (Disk × Nat) :=
  match refused? (d.temporaryPath directory) with
  | some r => .error r
  | none => do
    let l ← d.resolve directory
    let l ← d.enter l []
    .ok ({ d with
      temporaries := ⟨d.nextNumber, l⟩ :: d.temporaries
      nextNumber := d.nextNumber + 1 }, d.nextNumber)

/-- Removes a temporary file if it can be found where it was created. -/
def removeTemporary (d : Disk) (directory : Path) (number : Nat) : Disk :=
  match d.resolve directory with
  | .ok l => { d with temporaries := d.temporaries.erase ⟨number, l⟩ }
  | .error _ => d

def renameTemporary (d : Disk) (directory : Path) (number : Nat) (content : Bytes) (p : Path) :
    Except Refusal Disk :=
  if p.bytes.contains 0 then .error .invalid
  else if p.bytes = [] then .error .notFound
  else do
    let source ← d.resolve directory
    match ← d.target p with
    | .unnamed => .error .busy
    | .entry l name slash =>
      if ⟨number, source⟩ ∉ d.temporaries then .error .notFound
      else if nameLimit < name.length then .error .nameTooLong
      else if slash then .error .notDirectory
      else if d.entry? (l ++ [name]) = some .directory then .error .isDirectory
      else .ok { d.put (l ++ [name]) (.file content) with
        temporaries := d.temporaries.erase ⟨number, source⟩ }

end Disk
end Lexicon
