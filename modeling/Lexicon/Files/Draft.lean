import Lexicon.Failure
import Lexicon.Files.Disk

/-! A list is written to a temporary file, which then takes the place of the target. Faults of the
device are left out: bytes can always be written, flushed and synced, and permissions can always be
set. So a list only fails where its temporary file cannot be created or cannot be renamed. -/

namespace Lexicon

structure StoredList where
  path : Path
  terms : Nat
  bytes : Nat
  deriving Repr, DecidableEq

structure Draft where
  path : Path
  directory : Path
  temporary : Nat
  content : String := ""
  lines : Nat := 0
  bytes : Nat := 0

namespace Draft

def directoryOf (p : Path) : Path :=
  match p.parent? with
  | some parent => if parent.bytes = [] then ⟨[Path.dot]⟩ else parent
  | none => ⟨[Path.dot]⟩

def create (d : Disk) (p : Path) : Except Failure (Disk × Draft) :=
  match d.createTemporary (directoryOf p) with
  | .ok (d, number) => .ok (d, { path := p, directory := directoryOf p, temporary := number })
  | .error r => .error (.unwritable p ⟨r, some (d.temporaryPath (directoryOf p))⟩)

/-- Appends a term, behind a line feed unless it is the first. As the device takes all bytes, this
cannot fail. -/
def append (w : Draft) (term : String) : Draft :=
  let separator := if 0 < w.lines then "\n" else ""
  { w with
    content := w.content ++ separator ++ term
    lines := w.lines + 1
    bytes := w.bytes + separator.utf8ByteSize + term.utf8ByteSize }

/-- Removes the temporary file and leaves the target as it is. -/
def discard (w : Draft) (d : Disk) : Disk := d.removeTemporary w.directory w.temporary

/-- Replaces the target, or discards the list if that fails. Of its steps only the renaming can fail
here, since flushing, syncing and setting permissions are left out. -/
def commit (w : Draft) (d : Disk) : Disk × Except Failure StoredList :=
  match d.renameTemporary w.directory w.temporary (Utf8.encode w.content) w.path with
  | .ok d => (d, .ok ⟨w.path, w.lines, w.bytes⟩)
  | .error r => (w.discard d, .error (.unwritable w.path ⟨r, none⟩))

end Draft

def storeList (d : Disk) (p : Path) (terms : Vocabulary) : Disk × Except Failure StoredList :=
  match Draft.create d p with
  | .error f => (d, .error f)
  | .ok (d, w) => ((ascending terms.toList).foldl Draft.append w).commit d

end Lexicon
