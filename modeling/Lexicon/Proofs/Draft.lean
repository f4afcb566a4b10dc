import Lexicon.Files.Draft
import Lexicon.Proofs.Disk
import Lexicon.Proofs.Utf8

/-! What a list in writing holds, and what its steps do to the disk. Only a commit that succeeds
changes an entry, and every draft has one temporary file from its creation to its end. -/

namespace Lexicon
namespace Draft

structure Holds (w : Draft) (terms : List String) : Prop where
  content : w.content = "\n".intercalate terms
  lines : w.lines = terms.length
  bytes : w.bytes = w.content.utf8ByteSize

/-- A term stands behind a line feed unless it is the first, even if the first is empty. -/
theorem Holds.append {w : Draft} {terms : List String} (h : w.Holds terms) (term : String) :
    (w.append term).Holds (terms ++ [term]) where
  content := by
    cases terms with
    | nil => simp [Draft.append, h.lines, h.content]
    | cons first rest =>
      rw [String.intercalate_append_of_ne_nil (by simp) (by simp), ← h.content]
      simp [Draft.append, h.lines]
  lines := by simp [Draft.append, h.lines]
  bytes := by simp [Draft.append, h.bytes, String.utf8ByteSize_append]

theorem Holds.foldl_append {w : Draft} {before : List String} (h : w.Holds before)
    (terms : List String) : (terms.foldl Draft.append w).Holds (before ++ terms) := by
  induction terms generalizing w before with
  | nil => simpa using h
  | cons term terms ih => simpa using ih (h.append term)

theorem Holds.bytes_eq {w : Draft} {terms : List String} (h : w.Holds terms) :
    w.bytes = (Utf8.encode ("\n".intercalate terms)).length := by
  rw [h.bytes, h.content, Utf8.length_encode]

/-- The temporary file of a draft, in the directory that its path spells. -/
def temporaryFile (w : Draft) (workingDirectory : Location) : Temporary :=
  ⟨w.temporary, w.directory.location workingDirectory⟩

def SameFile (w w' : Draft) : Prop :=
  w'.path = w.path ∧ w'.directory = w.directory ∧ w'.temporary = w.temporary

theorem sameFile_foldl_append (w : Draft) (terms : List String) :
    w.SameFile (terms.foldl append w) := by
  induction terms generalizing w with
  | nil => exact ⟨rfl, rfl, rfl⟩
  | cons term terms ih => exact ih (w.append term)

def opened (w : Draft) (d : Disk) : Disk :=
  { d with
    temporaries := w.temporaryFile d.workingDirectory :: d.temporaries
    nextNumber := d.nextNumber + 1 }

theorem SameFile.opened_eq {w w' : Draft} (h : w.SameFile w') (d : Disk) :
    w'.opened d = w.opened d := by
  rw [opened, opened, temporaryFile, temporaryFile, h.2.1, h.2.2]

section Disk
variable {d d' : Disk} {p : Path} {w : Draft}

theorem temporaryFile_eq {l : Location} (h : d.resolve w.directory = .ok l) :
    w.temporaryFile d.workingDirectory = ⟨w.temporary, l⟩ := by
  rw [temporaryFile, Disk.location_of_resolve h]

/-- Creating a draft creates a temporary file, and nothing else. -/
theorem spec_of_create (h : create d p = .ok (d', w)) :
    w.path = p ∧ w.Holds [] ∧ (∃ l, d.resolve w.directory = .ok l) ∧ d' = w.opened d := by
  unfold create at h
  split at h
  next hcreate =>
    obtain ⟨rfl, rfl⟩ := Prod.mk.inj (Except.ok.inj h)
    obtain ⟨-, l, hresolve, -, rfl⟩ := Disk.exists_of_createTemporary hcreate
    refine ⟨rfl, ⟨rfl, rfl, rfl⟩, ⟨l, hresolve⟩, ?_⟩
    rw [opened, temporaryFile_eq hresolve]
  next => cases h

theorem exists_of_create_error {f : Failure} (h : create d p = .error f) :
    ∃ cause, f = .unwritable p cause := by
  unfold create at h
  split at h
  next => cases h
  next => exact ⟨_, (Except.error.inj h).symm⟩

/-- A draft that is given up loses its temporary file, and nothing else changes. -/
theorem discard_eq {l : Location} (h : d.resolve w.directory = .ok l) :
    w.discard d =
      { d with temporaries := d.temporaries.erase (w.temporaryFile d.workingDirectory) } := by
  rw [temporaryFile_eq h, discard, Disk.removeTemporary, h]

theorem rename_of_commit {list : StoredList} (h : w.commit d = (d', .ok list)) :
    d.renameTemporary w.directory w.temporary (Utf8.encode w.content) w.path = .ok d' ∧
      list = ⟨w.path, w.lines, w.bytes⟩ := by
  unfold commit at h
  split at h
  next hrename =>
    obtain ⟨rfl, hlist⟩ := Prod.mk.inj h
    exact ⟨hrename, (Except.ok.inj hlist).symm⟩
  next => cases (Prod.mk.inj h).2

/-- A commit that succeeds puts the whole content where the path leads, in the place of a file or of
nothing. -/
theorem spec_of_commit {list : StoredList} (h : w.commit d = (d', .ok list)) :
    list = ⟨w.path, w.lines, w.bytes⟩ ∧ Disk.Grows d d' ∧
      d'.resolve w.path = .ok (w.path.location d.workingDirectory) ∧
      d'.temporaries = d.temporaries.erase (w.temporaryFile d.workingDirectory) ∧
      ∀ l, d'.entry? l = if w.path.location d.workingDirectory = l
        then some (.file (Utf8.encode w.content)) else d.entry? l := by
  obtain ⟨hrename, rfl⟩ := rename_of_commit h
  obtain ⟨l, name, source, htarget, hlength, hfile, hsource, -, hd'⟩ :=
    Disk.exists_of_renameTemporary hrename
  have hworking : d'.workingDirectory = d.workingDirectory := by
    rw [hd']
    rfl
  -- A temporary file is no entry, so that nothing is found elsewhere for it.
  have hentry (l' : Location) : d'.entry? l' =
      if l ++ [name] = l' then some (.file (Utf8.encode w.content)) else d.entry? l' := by
    rw [hd']
    exact Disk.entry?_put (by simp) l'
  have hgrows : Disk.Grows d d' := Disk.Grows.of_entry hworking hfile hentry
  have hresolve : d'.resolve w.path = .ok (l ++ [name]) := by
    apply Disk.resolve_of_target hgrows htarget hlength
    rw [hentry, if_pos rfl]
    rfl
  have hlocation := Disk.location_of_resolve hresolve
  rw [hworking] at hlocation
  rw [temporaryFile_eq hsource, ← hlocation]
  refine ⟨rfl, hgrows, hresolve, ?_, hentry⟩
  rw [hd']

theorem spec_of_commit_error {f : Failure} (h : w.commit d = (d', .error f)) :
    (∃ cause, f = .unwritable w.path cause) ∧ d' = w.discard d := by
  unfold commit at h
  split at h
  next => cases (Prod.mk.inj h).2
  next =>
    obtain ⟨rfl, hf⟩ := Prod.mk.inj h
    exact ⟨⟨_, (Except.error.inj hf).symm⟩, rfl⟩

end Disk
end Draft
end Lexicon
