import Lexicon.Proofs.Delivery

/-! What is done to a disk does not hang on what its files hold. On two disks with the same tree the
same steps are refused, and the others change both alike. -/

namespace Lexicon

def Entry.isDirectory : Entry → Bool
  | .file _ => false
  | .directory => true

namespace Disk

/-- Two disks with the same directories and files, of which a file may differ in its content. -/
structure SameTree (d d' : Disk) : Prop where
  workingDirectory : d'.workingDirectory = d.workingDirectory
  workingPath : d'.workingPath = d.workingPath
  temporaries : d'.temporaries = d.temporaries
  nextNumber : d'.nextNumber = d.nextNumber
  kind : ∀ l, (d'.entry? l).map Entry.isDirectory = (d.entry? l).map Entry.isDirectory

theorem SameTree.refl (d : Disk) : SameTree d d := ⟨rfl, rfl, rfl, rfl, fun _ => rfl⟩

namespace SameTree
variable {d d' : Disk} (h : SameTree d d')
include h

theorem isSome_entry? (l : Location) : (d'.entry? l).isSome = (d.entry? l).isSome := by
  have hkind := congrArg Option.isSome (h.kind l)
  rwa [Option.isSome_map, Option.isSome_map] at hkind

theorem directory_iff (l : Location) :
    d'.entry? l = some .directory ↔ d.entry? l = some .directory := by
  have hmap (e : Option Entry) : e = some .directory ↔ e.map Entry.isDirectory = some true := by
    rcases e with _ | _ | _ <;> simp [Entry.isDirectory]
  rw [hmap, hmap, h.kind]

theorem enter_eq : d'.enter = d.enter := by
  funext l segment
  have hkind := h.kind l
  unfold enter
  rw [h.isSome_entry?]
  generalize d.entry? l = e, d'.entry? l = e' at hkind ⊢
  rcases e with _ | _ | _ <;> rcases e' with _ | _ | _ <;> first
    | rfl
    | simp [Entry.isDirectory] at hkind

theorem walk_eq : d'.walk = d.walk := by
  funext absolute segments
  rw [walk, walk, h.enter_eq, h.workingDirectory]

theorem resolve_eq : d'.resolve = d.resolve := by
  funext p
  rw [resolve, resolve, h.walk_eq]

theorem target_eq : d'.target = d.target := by
  funext p
  rw [target, target, h.walk_eq, h.enter_eq]

theorem isDirectory_eq (p : Path) : d'.isDirectory p = d.isDirectory p := by
  rw [isDirectory, isDirectory, h.resolve_eq]
  cases d.resolve p with
  | error => rfl
  | ok l => exact Bool.eq_iff_iff.mpr (by simpa using h.directory_iff l)

end SameTree

/-- Two disks with the same tree that have changed alike since they were as two others: where they
differ both are as they were. -/
structure AlikeSince (start start' d d' : Disk) : Prop extends SameTree d d' where
  entry : ∀ l, d'.entry? l = d.entry? l ∨
    d.entry? l = start.entry? l ∧ d'.entry? l = start'.entry? l

inductive AlikeOutcome (start start' : Disk) : Except Refusal Disk → Except Refusal Disk → Prop
  | refused (r : Refusal) : AlikeOutcome start start' (.error r) (.error r)
  | done {d d' : Disk} (h : AlikeSince start start' d d') :
    AlikeOutcome start start' (.ok d) (.ok d')

theorem SameTree.put_file {d d' : Disk} (h : SameTree d d') {l : Location} (hl : l ≠ [])
    (content content' : Bytes) :
    SameTree (d.put l (.file content)) (d'.put l (.file content')) where
  workingDirectory := h.workingDirectory
  workingPath := h.workingPath
  temporaries := h.temporaries
  nextNumber := h.nextNumber
  kind l' := by
    rw [entry?_put hl, entry?_put hl]
    split
    · rfl
    · exact h.kind l'

theorem SameTree.alike {d d' : Disk} (h : SameTree d d') : AlikeSince d d' d d' :=
  { h with entry := fun _ => .inr ⟨rfl, rfl⟩ }

namespace AlikeSince
variable {start start' d d' : Disk} (h : AlikeSince start start' d d')
include h

theorem put {l : Location} (hl : l ≠ []) (e : Entry) :
    AlikeSince start start' (d.put l e) (d'.put l e) where
  workingDirectory := h.workingDirectory
  workingPath := h.workingPath
  temporaries := h.temporaries
  nextNumber := h.nextNumber
  kind l' := by
    rw [entry?_put hl, entry?_put hl]
    split
    · rfl
    · exact h.kind l'
  entry l' := by
    rw [entry?_put hl, entry?_put hl]
    split
    · exact .inl rfl
    · exact h.entry l'

theorem createDirectory (p : Path) :
    AlikeOutcome start start' (d.createDirectory p) (d'.createDirectory p) := by
  unfold Disk.createDirectory
  rw [h.target_eq]
  cases d.target p with
  | error r => exact .refused r
  | ok target =>
    cases target with
    | unnamed => exact .refused _
    | entry l name slash =>
      simp only [bind, Except.bind]
      rw [h.isSome_entry?]
      split
      · exact .refused _
      split
      · exact .refused _
      · exact .done (h.put (by simp) _)

theorem ensureDirectory (p : Path) :
    AlikeOutcome start start' (d.ensureDirectory p) (d'.ensureDirectory p) := by
  have hcreate := h.createDirectory p
  unfold Disk.ensureDirectory
  rw [h.isDirectory_eq]
  generalize d.createDirectory p = x, d'.createDirectory p = x' at hcreate ⊢
  cases hcreate with
  | done hmade => exact .done hmade
  | refused r =>
    cases r with
    | alreadyExists =>
      dsimp only
      split
      · exact .done h
      · exact .refused _
    | _ => exact .refused _

/-- Nested directories are made alike, and up to the same failure. -/
theorem createNested (paths : List Path) :
    AlikeSince start start' (d.createNested paths).1 (d'.createNested paths).1 ∧
      (d'.createNested paths).2 = (d.createNested paths).2 := by
  induction paths generalizing d d' with
  | nil => exact ⟨h, rfl⟩
  | cons p outer ih =>
    have hfirst := h.ensureDirectory p
    have houter := ih h
    unfold Disk.createNested
    split
    · exact ⟨h, rfl⟩
    generalize d.ensureDirectory p = x, d'.ensureDirectory p = x' at hfirst ⊢
    generalize d.createNested outer = y, d'.createNested outer = y' at houter ⊢
    obtain ⟨made, failure⟩ := y
    obtain ⟨made', failure'⟩ := y'
    obtain ⟨halike, rfl⟩ := houter
    cases hfirst with
    | done hmade => exact ⟨hmade, rfl⟩
    | refused r =>
      cases r with
      | notFound =>
        cases failure' with
        | some r => exact ⟨halike, rfl⟩
        | none =>
          have hagain := halike.ensureDirectory p
          dsimp only at hagain ⊢
          generalize made.ensureDirectory p = x, made'.ensureDirectory p = x' at hagain ⊢
          cases hagain with
          | done hmade => exact ⟨hmade, rfl⟩
          | refused r => exact ⟨halike, rfl⟩
      | _ => exact ⟨h, rfl⟩

theorem withTemporaries (temporaries : List Temporary) :
    AlikeSince start start' { d with temporaries } { d' with temporaries } where
  workingDirectory := h.workingDirectory
  workingPath := h.workingPath
  temporaries := rfl
  nextNumber := h.nextNumber
  kind := h.kind
  entry := h.entry

theorem withNextNumber (nextNumber : Nat) :
    AlikeSince start start' { d with nextNumber } { d' with nextNumber } where
  workingDirectory := h.workingDirectory
  workingPath := h.workingPath
  temporaries := h.temporaries
  nextNumber := rfl
  kind := h.kind
  entry := h.entry

theorem removeTemporary (directory : Path) (number : Nat) :
    AlikeSince start start' (d.removeTemporary directory number)
      (d'.removeTemporary directory number) := by
  unfold Disk.removeTemporary
  rw [h.resolve_eq, h.temporaries]
  cases d.resolve directory with
  | error => exact h
  | ok l => exact h.withTemporaries _

theorem renameTemporary (directory : Path) (number : Nat) (content : Bytes) (p : Path) :
    AlikeOutcome start start' (d.renameTemporary directory number content p)
      (d'.renameTemporary directory number content p) := by
  unfold Disk.renameTemporary
  rw [h.resolve_eq, h.target_eq, h.temporaries]
  split
  · exact .refused _
  split
  · exact .refused _
  cases d.resolve directory with
  | error r => exact .refused r
  | ok source =>
    cases d.target p with
    | error r => exact .refused r
    | ok target =>
      cases target with
      | unnamed => exact .refused _
      | entry l name slash =>
        simp only [bind, Except.bind, h.directory_iff]
        split
        · exact .refused _
        split
        · exact .refused _
        split
        · exact .refused _
        split
        · exact .refused _
        · exact .done ((h.put (by simp) _).withTemporaries _)

theorem temporaryPath_eq (directory : Path) :
    d'.temporaryPath directory = d.temporaryPath directory := by
  rw [temporaryPath, temporaryPath, h.workingPath]

theorem createTemporary (directory : Path) :
    (∃ r, d.createTemporary directory = .error r ∧ d'.createTemporary directory = .error r) ∨
      ∃ made made' number, d.createTemporary directory = .ok (made, number) ∧
        d'.createTemporary directory = .ok (made', number) ∧
        AlikeSince start start' made made' := by
  unfold Disk.createTemporary
  rw [h.temporaryPath_eq, h.resolve_eq, h.enter_eq, h.temporaries, h.nextNumber]
  split
  next r _ => exact .inl ⟨r, rfl, rfl⟩
  next =>
    cases d.resolve directory with
    | error r => exact .inl ⟨r, rfl, rfl⟩
    | ok l =>
      simp only [bind, Except.bind]
      cases d.enter l [] with
      | error r => exact .inl ⟨r, rfl, rfl⟩
      | ok l =>
        refine .inr ⟨_, _, _, rfl, rfl, ?_⟩
        exact (h.withTemporaries (⟨d.nextNumber, l⟩ :: d.temporaries)).withNextNumber _

theorem commit (w : Draft) :
    AlikeSince start start' (w.commit d).1 (w.commit d').1 ∧ (w.commit d').2 = (w.commit d).2 := by
  have hrename := h.renameTemporary w.directory w.temporary (Utf8.encode w.content) w.path
  unfold Draft.commit
  generalize d.renameTemporary w.directory w.temporary (Utf8.encode w.content) w.path = x,
    d'.renameTemporary w.directory w.temporary (Utf8.encode w.content) w.path = x' at hrename ⊢
  cases hrename with
  | refused r => exact ⟨h.removeTemporary _ _, rfl⟩
  | done hrenamed => exact ⟨hrenamed, rfl⟩

theorem storeList (p : Path) (terms : Vocabulary) :
    AlikeSince start start' (storeList d p terms).1 (storeList d' p terms).1 ∧
      (storeList d' p terms).2 = (storeList d p terms).2 := by
  unfold Lexicon.storeList Draft.create
  rcases h.createTemporary (Draft.directoryOf p) with
    ⟨r, hd, hd'⟩ | ⟨made, made', number, hd, hd', halike⟩
  · rw [hd, hd']
    exact ⟨h, by rw [h.temporaryPath_eq]⟩
  · rw [hd, hd']
    exact halike.commit _

theorem prepareDirectory (p : Path) :
    AlikeSince start start' (prepareDirectory d p).1 (prepareDirectory d' p).1 ∧
      (prepareDirectory d' p).2 = (prepareDirectory d p).2 := by
  obtain ⟨halike, hfailure⟩ := h.createNested (p :: p.parents)
  unfold Lexicon.prepareDirectory exists? createDirectories
  rw [h.resolve_eq]
  split
  · exact ⟨h, rfl⟩
  generalize d.createNested (p :: p.parents) = x, d'.createNested (p :: p.parents) = x'
    at halike hfailure ⊢
  obtain ⟨made, failure⟩ := x
  obtain ⟨made', failure'⟩ := x'
  obtain rfl : failure' = failure := hfailure
  cases failure' with
  | none => exact ⟨halike, rfl⟩
  | some r => exact ⟨halike, rfl⟩

theorem deliverLists (directory : Path) (names : FileNames) (lists : Wordlists)
    (kinds : List ListKind) :
    AlikeSince start start' (deliverLists directory names lists d kinds).disk
        (deliverLists directory names lists d' kinds).disk ∧
      (deliverLists directory names lists d' kinds).failure =
        (deliverLists directory names lists d kinds).failure := by
  induction kinds generalizing d d' with
  | nil => exact ⟨h, rfl⟩
  | cons kind kinds ih =>
    obtain ⟨halike, hresult⟩ := h.storeList (targetPath directory names kind) (lists.get kind)
    rw [deliverLists_cons, deliverLists_cons]
    generalize Lexicon.storeList d (targetPath directory names kind) (lists.get kind) = x,
      Lexicon.storeList d' (targetPath directory names kind) (lists.get kind) = x'
      at halike hresult ⊢
    obtain ⟨stored, result⟩ := x
    obtain ⟨stored', result'⟩ := x'
    obtain rfl : result' = result := hresult
    cases result' with
    | error f => exact ⟨halike, rfl⟩
    | ok list => exact ih halike

/-- A delivery fails on both disks in the same way, or on neither, and changes them alike. -/
theorem deliver (directory : Path) (names : FileNames) (lists : Wordlists) :
    AlikeSince start start' (deliver directory names lists d).disk
        (deliver directory names lists d').disk ∧
      (deliver directory names lists d').failure = (deliver directory names lists d).failure := by
  obtain ⟨halike, hfailure⟩ := h.prepareDirectory directory
  unfold Lexicon.deliver
  generalize Lexicon.prepareDirectory d directory = x, Lexicon.prepareDirectory d' directory = x'
    at halike hfailure ⊢
  obtain ⟨made, failure⟩ := x
  obtain ⟨made', failure'⟩ := x'
  obtain rfl : failure' = failure := hfailure
  cases failure' with
  | some f => exact ⟨halike, rfl⟩
  | none => exact halike.deliverLists directory names lists ListKind.all

end AlikeSince
end Disk
end Lexicon
