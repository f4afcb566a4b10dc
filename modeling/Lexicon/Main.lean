import Lexicon.Number.Calendar
import Lexicon.Program
import Std.Time.DateTime.Timestamp

/-! The program on the files of the system: it looks up the entries that a run may touch, carries
out the command line on them, and puts what has changed back. -/

namespace Lexicon
namespace Host

/-- The path of a location as the system knows it. -/
def pathName (l : Location) : String := "/" ++ utf8.decode ([Path.slash].intercalate l)

def entryAt (l : Location) : IO (Option Entry) := do
  match ← (IO.FS.readBinFile (pathName l)).toBaseIO with
  | .ok content => return some (.file content.toList)
  | .error (.noFileOrDirectory ..) => return none
  | .error _ => return some .directory

def lookUp (d : Disk) (l : Location) : IO Disk :=
  (List.range l.length).foldlM
    (fun d n => do
      let here := l.take (n + 1)
      if (d.entry? here).isSome || d.entry? here.dropLast != some .directory then return d
      match ← entryAt here with
      | some e => return d.put here e
      | none => return d)
    d

def lookUpPath (d : Disk) (p : Path) : IO Disk := do
  let start := if p.isAbsolute then [] else d.workingDirectory
  let step := fun (state : Disk × Location) (segment : Bytes) => do
    let (d, l) := state
    if Path.isIdle segment then return (d, l)
    else if segment = [Path.dot, Path.dot] then return (d, l.dropLast)
    else return (← lookUp d (l ++ [segment]), l ++ [segment])
  return (← p.segments.foldlM step (d, start)).1

/-- The disk as far as a command line concerns it. -/
def snapshot (words : List Bytes) : IO Disk := do
  let workingPath : Path := .ofString (← IO.currentDir).toString
  let location := workingPath.segments.filter fun segment => !Path.isIdle segment
  let d ← lookUp { workingDirectory := location, workingPath } location
  match CommandLine.parse words with
  | .error _ => return d
  | .ok o =>
    let targets := ListKind.all.map (targetPath o.outputDirectory o.names)
    (o.input :: o.outputDirectory :: targets).foldlM lookUpPath d

/-- Puts an entry in its place. A file takes the place of an older one as a whole. -/
def store (l : Location) : Entry → IO Unit
  | .directory => IO.FS.createDirAll (pathName l)
  | .file content => do
    let name := pathName l
    IO.FS.writeBinFile (name ++ ".new") ⟨content.toArray⟩
    IO.FS.rename (name ++ ".new") name

/-- Puts back what has changed, directories before what they hold. -/
def update (before after : Disk) : IO Unit :=
  (before.changes after).forM fun change => store change.1 change.2

end Host
end Lexicon

open Lexicon in
def main (arguments : List String) : IO UInt32 := do
  let start ← IO.monoNanosNow
  let words := arguments.map Utf8.encode
  let before ← Host.snapshot words
  let outcome := Program.execute words (← IO.getEnv "RUST_LOG") before
  Host.update before (outcome.disk before)
  let elapsed := Duration.ofNanoseconds ((← IO.monoNanosNow) - start)
  let color ← (← IO.getStdout).isTty
  let now ← Std.Time.Timestamp.now
  IO.print (outcome.stdout color (.ofElapsed elapsed outcome.records))
  IO.eprint (outcome.stderr color (timeText now.toSecondsSinceUnixEpoch.val.toNat))
  return UInt32.ofNat outcome.exitCode
