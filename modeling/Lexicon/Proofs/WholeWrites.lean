import Lexicon.Proofs.Delivery
import Mathlib.Logic.Function.Basic

/-! A delivery is a prefix of three writes of whole files. A list that cannot be written leaves no
trace, and ends the delivery. -/

namespace Lexicon

def storedList (directory : Path) (names : FileNames) (lists : Wordlists) (kind : ListKind) :
    ListKind × StoredList :=
  (kind, ⟨targetPath directory names kind, (lists.get kind).size,
    (Utf8.encode (lists.text kind)).length⟩)

/-- What is found in each place once some lists have been stored, one after the other. -/
def storedEntries (workingDirectory : Location) (directory : Path) (names : FileNames)
    (lists : Wordlists) (entries : Location → Option Entry) (kinds : List ListKind) :
    Location → Option Entry :=
  kinds.foldl (fun entries kind => Function.update entries
    (targetLocation workingDirectory directory names kind)
    (some (.file (Utf8.encode (lists.text kind))))) entries

/-- A delivery has stored the lists of some kinds, and done nothing else to the entries. -/
structure Delivery.HasStored (r : Delivery) (workingDirectory : Location) (directory : Path)
    (names : FileNames) (lists : Wordlists) (entries : Location → Option Entry)
    (kinds : List ListKind) : Prop where
  written : r.written = kinds.map (storedList directory names lists)
  entries_eq : r.disk.entry? = storedEntries workingDirectory directory names lists entries kinds
  resolve : ∀ kind ∈ kinds, r.disk.resolve (targetPath directory names kind) =
    .ok (targetLocation workingDirectory directory names kind)

theorem Delivery.HasStored.cons {directory : Path} {names : FileNames} {lists : Wordlists}
    {d d' : Disk} {r : Delivery} {kind : ListKind} {list : StoredList} {kinds : List ListKind}
    (hstore : storeList d (targetPath directory names kind) (lists.get kind) = (d', .ok list))
    (hgrows : Disk.Grows d' r.disk)
    (h : r.HasStored d'.workingDirectory directory names lists d'.entry? kinds) :
    HasStored { r with written := (kind, list) :: r.written } d.workingDirectory directory names
      lists d.entry? (kind :: kinds) := by
  obtain ⟨hfirst, hresolve, hentry⟩ := storeList_spec hstore
  obtain ⟨rfl, -⟩ := written_of_storeList hstore
  rw [hfirst.workingDirectory] at h
  refine ⟨?_, ?_, ?_⟩
  · rw [h.written]
    rfl
  · have hupdate : d'.entry? = Function.update d.entry?
        (targetLocation d.workingDirectory directory names kind)
        (some (.file (Utf8.encode (lists.text kind)))) := by
      funext l
      rw [hentry, Function.update_apply]
      exact if_congr eq_comm rfl rfl
    rw [h.entries_eq, hupdate]
    rfl
  · intro other hother
    rcases List.mem_cons.mp hother with rfl | hother
    · exact Disk.resolve_of_grows hgrows hresolve
    · exact h.resolve other hother

/-- The lists before the first failure are stored. The induction is on the lists still to be
written. -/
theorem hasStored_deliverLists (directory : Path) (names : FileNames) (lists : Wordlists) (d : Disk)
    (kinds : List ListKind) :
    let r := deliverLists directory names lists d kinds
    r.disk.temporaries = d.temporaries ∧ Disk.Grows d r.disk ∧
    ∃ done rest, kinds = done ++ rest ∧
      r.HasStored d.workingDirectory directory names lists d.entry? done ∧
      match r.failure with
      | none => rest = []
      | some f => ∃ kind after cause start, rest = kind :: after ∧
          f = .unwritable (targetPath directory names kind) cause ∧
          Disk.entry? start = r.disk.entry? ∧
          (storeList start (targetPath directory names kind) (lists.get kind)).2 = .error f := by
  induction kinds generalizing d with
  | nil => exact ⟨rfl, Disk.Grows.refl d, [], [], rfl, ⟨rfl, rfl, by simp⟩, rfl⟩
  | cons kind kinds ih =>
    rw [deliverLists_cons]
    cases hstore : storeList d (targetPath directory names kind) (lists.get kind) with
    | mk d' result =>
      cases result with
      | error f =>
        obtain ⟨⟨cause, hcause⟩, nextNumber, rfl⟩ := failure_of_storeList hstore
        refine ⟨rfl, ⟨rfl, fun _ => id, fun _ => id⟩, [], kind :: kinds, rfl,
          ⟨rfl, rfl, by simp⟩, ?_⟩
        exact ⟨kind, kinds, cause, d, rfl, hcause, rfl, by rw [hstore]⟩
      | ok list =>
        obtain ⟨hfirst, -, -⟩ := storeList_spec hstore
        obtain ⟨-, htemporaries⟩ := written_of_storeList hstore
        obtain ⟨hrest, hgrows, done, rest, rfl, hstored, hend⟩ := ih d'
        exact ⟨hrest.trans htemporaries, hfirst.trans hgrows, kind :: done, rest, rfl,
          hstored.cons hstore hgrows, hend⟩

theorem written_of_deliver {directory : Path} {names : FileNames} {lists : Wordlists} {d : Disk}
    (h : (deliver directory names lists d).failure = none) :
    (deliver directory names lists d).written =
      ListKind.all.map (storedList directory names lists) := by
  obtain ⟨made, -, -, hlists⟩ := exists_of_deliver h
  obtain ⟨-, -, done, rest, hall, hstored, hend⟩ :=
    hasStored_deliverLists directory names lists made ListKind.all
  rw [hlists] at h ⊢
  rw [h] at hend
  obtain rfl : rest = [] := hend
  rw [List.append_nil] at hall
  rw [hstored.written, ← hall]

/-- A delivery stores all lists, or fails to make its directory, or stores the lists before the
first that cannot be written. Beyond these lists it makes the directories that are missing on the
way to its own, and leaves no temporary file. -/
theorem deliver_stores_prefix (directory : Path) (names : FileNames) (lists : Wordlists)
    (d : Disk) :
    let r := deliver directory names lists d
    let stored := r.HasStored d.workingDirectory directory names lists (preparedEntry d directory)
    r.disk.temporaries = d.temporaries ∧
    match r.failure with
    | none => stored ListKind.all
    | some f => ∃ path cause, f = .unwritable path cause ∧
        ((path = directory ∧ (prepareDirectory d directory).2 = some f ∧
          Disk.MadeDirectories d r.disk (directory.way d.workingDirectory)) ∨
        ∃ before kind after start, ListKind.all = before ++ kind :: after ∧
          path = targetPath directory names kind ∧ stored before ∧
          Disk.entry? start = r.disk.entry? ∧
          (storeList start path (lists.get kind)).2 = .error f) := by
  have hmade := made_prepareDirectory d directory
  unfold deliver
  cases hprepare : prepareDirectory d directory with
  | mk d' failure =>
    rw [hprepare] at hmade
    have htemporaries : d'.temporaries = d.temporaries := hmade.temporaries
    cases failure with
    | some f =>
      obtain ⟨cause, hcause⟩ := exists_of_prepareDirectory_failure hprepare
      exact ⟨htemporaries, directory, cause, hcause, .inl ⟨rfl, rfl, hmade⟩⟩
    | none =>
      obtain ⟨hkept, -, done, rest, hall, hstored, hend⟩ :=
        hasStored_deliverLists directory names lists d' ListKind.all
      have hentries : d'.entry? = preparedEntry d directory :=
        funext (entry?_of_prepareDirectory hprepare)
      rw [hmade.workingDirectory, hentries] at hstored
      refine ⟨hkept.trans htemporaries, ?_⟩
      dsimp only
      generalize deliverLists directory names lists d' ListKind.all = r at hstored hend ⊢
      cases hfailure : r.failure with
      | none =>
        rw [hfailure] at hend
        obtain rfl : rest = [] := hend
        rw [hall, List.append_nil]
        exact hstored
      | some f =>
        rw [hfailure] at hend
        obtain ⟨kind, after, cause, start, rfl, hf, hstart, herror⟩ := hend
        exact ⟨_, cause, hf, .inr ⟨done, kind, after, start, hall, rfl, hstored, hstart, herror⟩⟩

end Lexicon
