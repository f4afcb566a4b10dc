import Lexicon.Proofs.Directories
import Lexicon.Proofs.Draft
import Lexicon.Proofs.Wordlist

/-! What is on disk once the lists are written. Each is found where its path leads, unless a later
one was put in the same place. -/

namespace Lexicon

section Storing
variable {d d' : Disk} {p : Path} {terms : Vocabulary} {list : StoredList}

/-- If a draft can be created, a list is stored by the commit of one that holds it as a whole. -/
theorem storeList_cases (d : Disk) (p : Path) (terms : Vocabulary) :
    (∃ cause, storeList d p terms = (d, .error (.unwritable p cause))) ∨
      ∃ w : Draft, w.path = p ∧ w.Holds terms.toList ∧ (∃ l, d.resolve w.directory = .ok l) ∧
        storeList d p terms = w.commit (w.opened d) := by
  unfold storeList
  cases hcreate : Draft.create d p with
  | error f =>
    obtain ⟨cause, rfl⟩ := Draft.exists_of_create_error hcreate
    exact .inl ⟨cause, rfl⟩
  | ok created =>
    obtain ⟨start, w⟩ := created
    obtain ⟨hpath, hholds, hdirectory, rfl⟩ := Draft.spec_of_create hcreate
    have hsame := w.sameFile_foldl_append terms.toList
    have hfull := hholds.foldl_append terms.toList
    dsimp only
    rw [ascending_toList, ← hsame.opened_eq]
    refine .inr ⟨_, hsame.1.trans hpath, hfull, ?_, rfl⟩
    rw [hsame.2.1]
    exact hdirectory

theorem commit_of_storeList (h : storeList d p terms = (d', .ok list)) :
    ∃ w : Draft, w.path = p ∧ w.Holds terms.toList ∧ w.commit (w.opened d) = (d', .ok list) := by
  rcases storeList_cases d p terms with ⟨cause, hstore⟩ | ⟨w, hpath, hholds, -, hstore⟩
  · rw [h] at hstore
    cases (Prod.mk.inj hstore).2
  · exact ⟨w, hpath, hholds, hstore.symm.trans h⟩

theorem exists_name_of_storeList (h : storeList d p terms = (d', .ok list)) :
    ∃ before name, p.segments = before ++ [name] ∧ Path.IsName name := by
  obtain ⟨w, rfl, -, hcommit⟩ := commit_of_storeList h
  obtain ⟨hrename, -⟩ := Draft.rename_of_commit hcommit
  obtain ⟨l, name, _, htarget, -⟩ := Disk.exists_of_renameTemporary hrename
  obtain ⟨before, -, hsegments, -, -, hname⟩ := Disk.exists_of_target htarget
  exact ⟨before, name, hsegments, hname⟩

/-- A list that is stored has been put as a whole where its path leads. -/
theorem storeList_spec (h : storeList d p terms = (d', .ok list)) :
    Disk.Grows d d' ∧ d'.resolve p = .ok (p.location d.workingDirectory) ∧
      ∀ l, d'.entry? l = if p.location d.workingDirectory = l
        then some (.file (Utf8.encode (listText terms.toList))) else d.entry? l := by
  obtain ⟨w, rfl, hholds, hcommit⟩ := commit_of_storeList h
  obtain ⟨-, hgrows, hresolve, -, hentry⟩ := Draft.spec_of_commit hcommit
  refine ⟨⟨hgrows.workingDirectory, hgrows.directory, hgrows.entry⟩, hresolve, fun l => ?_⟩
  rw [listText, ascending_toList, ← hholds.content]
  exact hentry l

theorem addsFiles_of_storeList (h : storeList d p terms = (d', .ok list)) :
    Disk.AddsFiles d d' := by
  obtain ⟨hgrows, hresolve, hentry⟩ := storeList_spec h
  refine ⟨hgrows, ?_, fun l hl => ?_⟩
  · obtain ⟨w, rfl, -, hcommit⟩ := commit_of_storeList h
    obtain ⟨hrename, -⟩ := Draft.rename_of_commit hcommit
    obtain ⟨l, name, source, -, -, -, -, -, rfl⟩ := Disk.exists_of_renameTemporary hrename
    rfl
  · rw [hentry] at hl
    split at hl
    next => cases hl
    next => exact hl

/-- What is told of a list that is stored. Its temporary file is gone. -/
theorem written_of_storeList (h : storeList d p terms = (d', .ok list)) :
    list = ⟨p, terms.size, (Utf8.encode (listText terms.toList)).length⟩ ∧
      d'.temporaries = d.temporaries := by
  obtain ⟨w, rfl, hholds, hcommit⟩ := commit_of_storeList h
  obtain ⟨rfl, -, -, htemporaries, -⟩ := Draft.spec_of_commit hcommit
  constructor
  · rw [hholds.bytes_eq, hholds.lines, Std.ExtTreeSet.length_toList, listText, ascending_toList]
  · rw [htemporaries]
    exact List.erase_cons_head ..

/-- A list that cannot be stored leaves the disk as it is, but for the number of the next temporary
file. -/
theorem failure_of_storeList {f : Failure} (h : storeList d p terms = (d', .error f)) :
    (∃ cause, f = .unwritable p cause) ∧ ∃ nextNumber, d' = { d with nextNumber } := by
  rcases storeList_cases d p terms with ⟨cause, hstore⟩ | ⟨w, rfl, -, ⟨l, hl⟩, hstore⟩
  · rw [h] at hstore
    obtain ⟨rfl, hf⟩ := Prod.mk.inj hstore
    exact ⟨⟨cause, Except.error.inj hf⟩, d'.nextNumber, rfl⟩
  · rw [h] at hstore
    obtain ⟨hcause, hdiscard⟩ := Draft.spec_of_commit_error hstore.symm
    have hopened : (w.opened d).resolve w.directory = .ok l := hl
    rw [Draft.discard_eq hopened] at hdiscard
    refine ⟨hcause, d.nextNumber + 1, hdiscard.trans ?_⟩
    have herase : (w.opened d).temporaries.erase (w.temporaryFile d.workingDirectory) =
        d.temporaries := List.erase_cons_head ..
    rw [show (w.opened d).workingDirectory = d.workingDirectory from rfl, herase]
    rfl

end Storing

def targetLocation (workingDirectory : Location) (directory : Path) (names : FileNames)
    (kind : ListKind) : Location := (targetPath directory names kind).location workingDirectory

section Delivering
variable {directory : Path} {names : FileNames} {lists : Wordlists} {d : Disk}

theorem deliverLists_cons (kind : ListKind) (kinds : List ListKind) :
    deliverLists directory names lists d (kind :: kinds) =
      match storeList d (targetPath directory names kind) (lists.get kind) with
      | (d, .error f) => { disk := d, failure := some f }
      | (d, .ok list) =>
        let report := deliverLists directory names lists d kinds
        { report with written := (kind, list) :: report.written } :=
  (rfl)

theorem exists_of_deliverLists_cons {kind : ListKind} {kinds : List ListKind}
    (h : (deliverLists directory names lists d (kind :: kinds)).failure = none) :
    ∃ d' list, storeList d (targetPath directory names kind) (lists.get kind) = (d', .ok list) ∧
      (deliverLists directory names lists d' kinds).failure = none ∧
      (deliverLists directory names lists d (kind :: kinds)).disk =
        (deliverLists directory names lists d' kinds).disk := by
  rw [deliverLists_cons] at h ⊢
  generalize storeList d (targetPath directory names kind) (lists.get kind) = stored at h ⊢
  obtain ⟨d', result⟩ := stored
  cases result with
  | error f => cases h
  | ok list => exact ⟨d', list, rfl, h, rfl⟩

theorem addsFiles_deliverLists {kinds : List ListKind}
    (h : (deliverLists directory names lists d kinds).failure = none) :
    Disk.AddsFiles d (deliverLists directory names lists d kinds).disk := by
  induction kinds generalizing d with
  | nil => exact Disk.AddsFiles.refl d
  | cons kind kinds ih =>
    obtain ⟨d', list, hstore, hrest, hdisk⟩ := exists_of_deliverLists_cons h
    rw [hdisk]
    exact (addsFiles_of_storeList hstore).trans (ih hrest)

theorem grows_deliverLists {kinds : List ListKind}
    (h : (deliverLists directory names lists d kinds).failure = none) :
    Disk.Grows d (deliverLists directory names lists d kinds).disk :=
  (addsFiles_deliverLists h).toGrows

theorem exists_storeList_of_deliverLists {kinds : List ListKind}
    (h : (deliverLists directory names lists d kinds).failure = none) {kind : ListKind}
    (hkind : kind ∈ kinds) :
    ∃ start stored list, start.workingDirectory = d.workingDirectory ∧
      storeList start (targetPath directory names kind) (lists.get kind) = (stored, .ok list) ∧
      Disk.AddsFiles stored (deliverLists directory names lists d kinds).disk := by
  induction kinds generalizing d with
  | nil => cases hkind
  | cons first kinds ih =>
    obtain ⟨d', list, hstore, hrest, hdisk⟩ := exists_of_deliverLists_cons h
    rw [hdisk]
    rcases List.mem_cons.mp hkind with rfl | hkind
    · exact ⟨d, d', list, rfl, hstore, addsFiles_deliverLists hrest⟩
    · obtain ⟨start, stored, list, hworking, hstored, hadds⟩ := ih hrest hkind
      obtain ⟨hfirst, -, -⟩ := storeList_spec hstore
      exact ⟨start, stored, list, hworking.trans hfirst.workingDirectory, hstored, hadds⟩

theorem exists_name_of_deliverLists {kinds : List ListKind}
    (h : (deliverLists directory names lists d kinds).failure = none) {kind : ListKind}
    (hkind : kind ∈ kinds) :
    ∃ before name, (targetPath directory names kind).segments = before ++ [name] ∧
      Path.IsName name := by
  obtain ⟨_, _, _, -, hstore, -⟩ := exists_storeList_of_deliverLists h hkind
  exact exists_name_of_storeList hstore

/-- Every list is found at the end of its path. -/
theorem resolve_deliverLists {kinds : List ListKind}
    (h : (deliverLists directory names lists d kinds).failure = none) {kind : ListKind}
    (hkind : kind ∈ kinds) :
    (deliverLists directory names lists d kinds).disk.resolve (targetPath directory names kind) =
      .ok (targetLocation d.workingDirectory directory names kind) := by
  obtain ⟨start, stored, list, hworking, hstore, hadds⟩ := exists_storeList_of_deliverLists h hkind
  obtain ⟨-, hresolve, -⟩ := storeList_spec hstore
  rw [targetLocation, ← hworking]
  exact Disk.resolve_of_grows hadds.toGrows hresolve

/-- A location holds the last of the lists that go there, and what it held before if none does. -/
theorem entry?_deliverLists {kinds : List ListKind}
    (h : (deliverLists directory names lists d kinds).failure = none) (l : Location) :
    Disk.entry? (deliverLists directory names lists d kinds).disk l =
      ((kinds.filter fun kind =>
        targetLocation d.workingDirectory directory names kind = l).getLast?.map
          fun kind => .file (Utf8.encode (lists.text kind))).or (d.entry? l) := by
  induction kinds generalizing d with
  | nil => rfl
  | cons first kinds ih =>
    obtain ⟨d', list, hstore, hrest, hdisk⟩ := exists_of_deliverLists_cons h
    obtain ⟨hgrows, -, hentry⟩ := storeList_spec hstore
    rw [hdisk, ih hrest, hgrows.workingDirectory, hentry l]
    by_cases hl : targetLocation d.workingDirectory directory names first = l
    · rw [List.filter_cons_of_pos (by simpa using hl), List.getLast?_cons, if_pos (by exact hl)]
      -- The first list stays only if no other follows it there.
      cases (kinds.filter fun kind =>
        targetLocation d.workingDirectory directory names kind = l).getLast? with
      | none => rfl
      | some last => rfl
    · rw [List.filter_cons_of_neg (by simpa using hl), if_neg (by exact hl)]

theorem exists_read_deliverLists {kinds : List ListKind}
    (h : (deliverLists directory names lists d kinds).failure = none) {kind : ListKind}
    (hkind : kind ∈ kinds) :
    ∃ last ∈ kinds, targetLocation d.workingDirectory directory names last =
        targetLocation d.workingDirectory directory names kind ∧
      ∀ other ∈ kinds, targetLocation d.workingDirectory directory names other =
          targetLocation d.workingDirectory directory names kind →
        (deliverLists directory names lists d kinds).disk.read (targetPath directory names other) =
          .ok (Utf8.encode (lists.text last)) := by
  have hentry := entry?_deliverLists h (targetLocation d.workingDirectory directory names kind)
  cases hlast : (kinds.filter fun other => targetLocation d.workingDirectory directory names other =
      targetLocation d.workingDirectory directory names kind).getLast? with
  | none =>
    rw [List.getLast?_eq_none_iff, List.filter_eq_nil_iff] at hlast
    exact absurd (decide_eq_true rfl) (hlast kind hkind)
  | some last =>
    have hmem := List.mem_of_getLast? hlast
    rw [List.mem_filter, decide_eq_true_eq] at hmem
    rw [hlast] at hentry
    refine ⟨last, hmem.1, hmem.2, fun other hother hsame => ?_⟩
    have hresolve := resolve_deliverLists h hother
    rw [hsame] at hresolve
    exact Disk.read_of_resolve hresolve hentry

end Delivering

/-- A delivery makes its directory, and either fails to or goes on to the lists. -/
theorem deliver_cases (directory : Path) (names : FileNames) (lists : Wordlists) (d : Disk) :
    ∃ made, Disk.MadeDirectories d made (directory.way d.workingDirectory) ∧
      ((∃ f, deliver directory names lists d = { disk := made, failure := some f }) ∨
        deliver directory names lists d =
          deliverLists directory names lists made ListKind.all) := by
  have hmade := made_prepareDirectory d directory
  unfold deliver
  cases hprepare : prepareDirectory d directory with
  | mk made failure =>
    rw [hprepare] at hmade
    refine ⟨made, hmade, ?_⟩
    cases failure with
    | some f => exact .inl ⟨f, rfl⟩
    | none => exact .inr rfl

/-- A delivery that succeeds has made its directory and then written the lists. -/
theorem exists_of_deliver {directory : Path} {names : FileNames} {lists : Wordlists} {d : Disk}
    (h : (deliver directory names lists d).failure = none) :
    ∃ made, prepareDirectory d directory = (made, none) ∧
      made.workingDirectory = d.workingDirectory ∧
      deliver directory names lists d = deliverLists directory names lists made ListKind.all := by
  have hmade := made_prepareDirectory d directory
  unfold deliver at h ⊢
  cases hprepare : prepareDirectory d directory with
  | mk made failure =>
    rw [hprepare] at h hmade
    cases failure with
    | some f => cases h
    | none => exact ⟨made, rfl, hmade.workingDirectory, rfl⟩

/-- The files of a delivery hold their lists if and only if only lists with the same text share a
location. -/
theorem deliver_intact_iff {directory : Path} {names : FileNames} {lists : Wordlists} {d : Disk}
    (h : (deliver directory names lists d).failure = none) :
    (∀ kind, (deliver directory names lists d).disk.read (targetPath directory names kind) =
        .ok (Utf8.encode (lists.text kind))) ↔
      ∀ kind other, targetLocation d.workingDirectory directory names kind =
          targetLocation d.workingDirectory directory names other →
        lists.text kind = lists.text other := by
  obtain ⟨d', -, hworking, hdeliver⟩ := exists_of_deliver h
  rw [hdeliver] at h ⊢
  rw [← hworking]
  constructor
  · intro hread kind other hsame
    obtain ⟨last, -, -, hlast⟩ := exists_read_deliverLists h kind.mem_all
    have hkind := hlast kind kind.mem_all rfl
    have hother := hlast other other.mem_all hsame.symm
    rw [hread] at hkind hother
    have hbytes := Except.ok.inj (hkind.trans hother.symm)
    exact Utf8.encode_injective hbytes
  · intro hsame kind
    obtain ⟨last, -, hplace, hlast⟩ := exists_read_deliverLists h kind.mem_all
    rw [hlast kind kind.mem_all rfl, hsame last kind hplace]

end Lexicon
