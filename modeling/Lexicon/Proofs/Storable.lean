import Lexicon.Proofs.Delivery

/-! When a list can be stored. Its directory has to be there, with room for the path of a temporary
file, and its path has to end in a name that no directory has. What has been stored does not change
that, so that lists which could be stored can be stored again. -/

namespace Lexicon
namespace Disk
variable {d d' : Disk} {p directory : Path}

structure Storable (d : Disk) (p : Path) : Prop where
  temporary : refused? (d.temporaryPath (Draft.directoryOf p)) = none
  directory : ∃ l, d.resolve (Draft.directoryOf p) = .ok l ∧ d.entry? l = some .directory
  target : ∃ l name, d.target p = .ok (.entry l name false) ∧ name.length ≤ nameLimit ∧
    d.entry? (l ++ [name]) ≠ some .directory

/-- A temporary file can be created beside what a path names. -/
def CanOpen (d : Disk) (p : Path) : Prop :=
  refused? (d.temporaryPath (Draft.directoryOf p)) = none ∧
    ∃ l, d.resolve (Draft.directoryOf p) = .ok l ∧ d.entry? l = some .directory

/-- A file can take the place of what a path names. -/
def CanReplace (d : Disk) (p : Path) : Prop :=
  ∃ l name, d.target p = .ok (.entry l name false) ∧ name.length ≤ nameLimit ∧
    d.entry? (l ++ [name]) ≠ some .directory

theorem storable_iff : d.Storable p ↔ d.CanOpen p ∧ d.CanReplace p :=
  ⟨fun h => ⟨⟨h.temporary, h.directory⟩, h.target⟩, fun h => ⟨h.1.1, h.1.2, h.2⟩⟩

theorem createTemporary_eq_ok {l : Location}
    (hrefused : refused? (d.temporaryPath directory) = none)
    (hresolve : d.resolve directory = .ok l) (hentry : d.entry? l = some .directory) :
    d.createTemporary directory = .ok ({ d with
      temporaries := ⟨d.nextNumber, l⟩ :: d.temporaries
      nextNumber := d.nextNumber + 1 }, d.nextNumber) := by
  rw [createTemporary, hrefused, hresolve]
  dsimp only [bind, Except.bind]
  rw [enter_nil hentry]

/-- A temporary file that is there takes the place of what a path names, if that is a name in a
directory and no directory has it. -/
theorem exists_renameTemporary (content : Bytes) {number : Nat} {source l : Location} {name : Bytes}
    (hsource : d.resolve directory = .ok source) (htemporary : ⟨number, source⟩ ∈ d.temporaries)
    (htarget : d.target p = .ok (.entry l name false)) (hlength : name.length ≤ nameLimit)
    (hentry : d.entry? (l ++ [name]) ≠ some .directory) :
    ∃ d', d.renameTemporary directory number content p = .ok d' := by
  obtain ⟨-, hrefused, -⟩ := exists_of_target htarget
  have hnul : ¬p.bytes.contains 0 = true := by
    rw [contains_nul_of_refused?_eq_none hrefused]
    exact Bool.false_ne_true
  rw [renameTemporary, if_neg hnul, if_neg (bytes_ne_nil_of_refused?_eq_none hrefused), hsource]
  dsimp only [bind, Except.bind]
  rw [htarget]
  dsimp only
  rw [if_neg (not_not.mpr htemporary), if_neg (Nat.not_lt.mpr hlength), if_neg Bool.false_ne_true,
    if_neg hentry]
  exact ⟨_, rfl⟩

theorem Storable.of_addsFiles (h : AddsFiles d d') (hp : d.Storable p) : d'.Storable p where
  temporary := by
    rw [temporaryPath, h.workingPath]
    exact hp.temporary
  directory := by
    obtain ⟨l, hresolve, hentry⟩ := hp.directory
    exact ⟨l, resolve_of_grows h.toGrows hresolve, h.directory l hentry⟩
  target := by
    obtain ⟨l, name, htarget, hlength, hentry⟩ := hp.target
    refine ⟨l, name, target_of_grows h.toGrows htarget, hlength, fun hl => hentry ?_⟩
    exact h.old_directory _ hl

end Disk

namespace Draft
variable {d d' : Disk} {p : Path} {w : Draft}

theorem isOk_create_iff : (create d p).isOk ↔ d.CanOpen p := by
  constructor
  · intro h
    cases hcreate : d.createTemporary (directoryOf p) with
    | error r =>
      rw [create, hcreate] at h
      cases h
    | ok created =>
      obtain ⟨hrefused, l, hresolve, hentry, -⟩ := Disk.exists_of_createTemporary hcreate
      exact ⟨hrefused, l, hresolve, hentry⟩
  · rintro ⟨hrefused, l, hresolve, hentry⟩
    rw [create, Disk.createTemporary_eq_ok hrefused hresolve hentry]
    rfl

theorem canReplace_of_commit {list : StoredList} (h : w.commit d = (d', .ok list)) :
    d.CanReplace w.path := by
  obtain ⟨hrename, -⟩ := rename_of_commit h
  obtain ⟨l, name, -, htarget, hlength, hentry, -⟩ := Disk.exists_of_renameTemporary hrename
  exact ⟨l, name, htarget, hlength, hentry⟩

/-- As long as its temporary file is there, a draft can be committed wherever a file can be put. -/
theorem isOk_commit_iff {l : Location} (hsource : d.resolve w.directory = .ok l)
    (htemporary : ⟨w.temporary, l⟩ ∈ d.temporaries) :
    (w.commit d).2.isOk ↔ d.CanReplace w.path := by
  constructor
  · intro h
    cases hcommit : w.commit d with
    | mk d' result =>
      rw [hcommit] at h
      cases result with
      | error f => cases h
      | ok list => exact canReplace_of_commit hcommit
  · rintro ⟨l', name, htarget, hlength, hentry⟩
    obtain ⟨d', hrename⟩ := Disk.exists_renameTemporary (Utf8.encode w.content) hsource htemporary
      htarget hlength hentry
    rw [commit, hrename]
    rfl

end Draft

section Storing
variable {d d' : Disk} {p : Path} {terms : Vocabulary} {list : StoredList}

/-- A draft that is opened where its list can be stored is committed, whatever has been appended. -/
theorem exists_storeList (h : d.Storable p) (terms : Vocabulary) :
    ∃ d' list, storeList d p terms = (d', .ok list) := by
  obtain ⟨source, hresolve, hdirectory⟩ := h.directory
  obtain ⟨l, name, htarget, hlength, hentry⟩ := h.target
  rw [storeList, Draft.create, Disk.createTemporary_eq_ok h.temporary hresolve hdirectory]
  dsimp only
  generalize hw : (ascending terms.toList).foldl Draft.append _ = w
  obtain ⟨hpath, hdraft, hnumber⟩ := hw ▸ Draft.sameFile_foldl_append _ (ascending terms.toList)
  obtain ⟨d', hrename⟩ := Disk.exists_renameTemporary
    (d := { d with
      temporaries := ⟨d.nextNumber, source⟩ :: d.temporaries
      nextNumber := d.nextNumber + 1 })
    (Utf8.encode w.content) hresolve List.mem_cons_self htarget hlength hentry
  rw [Draft.commit, hpath, hdraft, hnumber, hrename]
  exact ⟨d', _, rfl⟩

theorem storable_of_storeList (h : storeList d p terms = (d', .ok list)) : d.Storable p := by
  refine Disk.storable_iff.mpr ⟨Draft.isOk_create_iff.mp ?_, ?_⟩
  · cases hcreate : Draft.create d p with
    | error f =>
      rw [storeList, hcreate] at h
      cases (Prod.mk.inj h).2
    | ok created => rfl
  · obtain ⟨w, rfl, -, hcommit⟩ := commit_of_storeList h
    -- What a path names does not hang on the temporary files.
    have hreplace : (w.opened d).CanReplace w.path := Draft.canReplace_of_commit hcommit
    exact hreplace

end Storing

section Delivering
variable {directory : Path} {names : FileNames} {lists : Wordlists} {d : Disk}

theorem deliverLists_of_storable {kinds : List ListKind}
    (h : ∀ kind ∈ kinds, d.Storable (targetPath directory names kind)) :
    (deliverLists directory names lists d kinds).failure = none := by
  induction kinds generalizing d with
  | nil => rfl
  | cons kind kinds ih =>
    obtain ⟨hkind, hkinds⟩ := List.forall_mem_cons.mp h
    obtain ⟨d', list, hstore⟩ := exists_storeList hkind (lists.get kind)
    rw [deliverLists_cons, hstore]
    exact ih fun other hother => (hkinds other hother).of_addsFiles (addsFiles_of_storeList hstore)

theorem storable_deliverLists {kinds : List ListKind}
    (h : (deliverLists directory names lists d kinds).failure = none) {kind : ListKind}
    (hkind : kind ∈ kinds) :
    (deliverLists directory names lists d kinds).disk.Storable
      (targetPath directory names kind) := by
  obtain ⟨start, stored, list, -, hstore, hadds⟩ := exists_storeList_of_deliverLists h hkind
  exact (storable_of_storeList hstore).of_addsFiles
    ((addsFiles_of_storeList hstore).trans hadds)

end Delivering
end Lexicon
