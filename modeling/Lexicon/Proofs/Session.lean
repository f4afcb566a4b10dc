import Lexicon.Files.Session
import Lexicon.Proofs.Storable
import Mathlib.Data.List.Forall2
import Mathlib.Logic.Function.Basic

/-! Several lists in writing at once. However their steps are interleaved, each list has one
temporary file for as long as it is in writing, and a target only ever changes from one whole list
to another. What a step answers follows from the lists in writing and from the disk. -/

namespace Lexicon

section Pairs
variable {α : Type} {key : Nat} {pairs : List (Nat × α)}

theorem filter_key_of_lookup_eq_none (h : pairs.lookup key = none) :
    (pairs.filter fun (k, _) => k != key) = pairs := by
  rw [List.lookup_eq_none_iff] at h
  refine List.filter_eq_self.mpr fun pair hpair => ?_
  have hne : key ≠ pair.1 := by simpa using h pair hpair
  exact bne_iff_ne.mpr hne.symm

/-- With distinct keys, the others are all but the one that is found. -/
theorem perm_of_lookup {value : α} (hkeys : (pairs.map Prod.fst).Nodup)
    (h : pairs.lookup key = some value) :
    pairs.Perm ((key, value) :: pairs.filter fun (k, _) => k != key) := by
  induction pairs with
  | nil => cases h
  | cons pair pairs ih =>
    obtain ⟨k, v⟩ := pair
    rw [List.map_cons, List.nodup_cons] at hkeys
    rw [List.lookup_cons] at h
    by_cases hk : key = k
    · subst hk
      obtain rfl : v = value := by simpa using h
      have hnone : pairs.lookup key = none := by
        refine List.lookup_eq_none_iff.mpr fun pair hpair => ?_
        have hne : key ≠ pair.1 := by
          rintro rfl
          exact hkeys.1 (List.mem_map.mpr ⟨pair, hpair, rfl⟩)
        simpa using hne
      rw [List.filter_cons_of_neg (by simp), filter_key_of_lookup_eq_none hnone]
    · rw [beq_false_of_ne hk] at h
      have hkeep : ((k, v) :: pairs).filter (fun (k, _) => k != key) =
          (k, v) :: pairs.filter fun (k, _) => k != key := by
        simp [Ne.symm hk]
      rw [hkeep]
      exact ((ih hkeys.2 h).cons _).trans (List.Perm.swap ..)

theorem nodup_filter_key (hkeys : (pairs.map Prod.fst).Nodup) :
    ((pairs.filter fun (k, _) => k != key).map Prod.fst).Nodup :=
  hkeys.sublist (List.filter_sublist.map _)

theorem not_mem_keys_filter : key ∉ (pairs.filter fun (k, _) => k != key).map Prod.fst := by
  simp

theorem filter_key_idem : ((pairs.filter fun (k, _) => k != key).filter fun (k, _) => k != key) =
    pairs.filter fun (k, _) => k != key := by
  rw [List.filter_filter]
  simp only [Bool.and_self]

end Pairs

def SessionStep.key : SessionStep → Nat
  | .create key _ | .write key _ | .commit key | .discard key => key

/-- The lists in writing and the lists stored so far, as the answers of a session tell of them: a
list in writing has its key, its target and the terms it was given. -/
structure Ledger where
  live : List (Nat × Path × List String) := []
  stored : List (Path × List String) := []

def wholeFile (terms : List String) : Entry := .file (Utf8.encode ("\n".intercalate terms))

namespace Ledger

def without (g : Ledger) (key : Nat) : List (Nat × Path × List String) :=
  g.live.filter fun (k, _) => k != key

/-- Keeps book of one step by its answer. A list that takes a key from another ends that one. -/
def observe (g : Ledger) : SessionStep → SessionAnswer → Ledger
  | .create key path, .done => { g with live := (key, path, []) :: g.without key }
  | .write key term, .done =>
    match g.live.lookup key with
    | some (path, terms) => { g with live := (key, path, terms ++ [term]) :: g.without key }
    | none => g
  | .commit key, .stored _ =>
    match g.live.lookup key with
    | some list => ⟨g.without key, g.stored ++ [list]⟩
    | none => g
  | .commit key, .failed _ => { g with live := g.without key }
  | .discard key, _ => { g with live := g.without key }
  | _, _ => g

/-- The last list stored in a place, and what it held at the start if there is none. -/
def entry? (g : Ledger) (start : Disk) (l : Location) : Option Entry :=
  match (g.stored.filter fun (path, _) => path.location start.workingDirectory = l).getLast? with
  | some (_, terms) => some (wholeFile terms)
  | none => start.entry? l

theorem entry?_concat (live : List (Nat × Path × List String)) (stored : List (Path × List String))
    (path : Path) (terms : List String) (start : Disk) (l : Location) :
    entry? ⟨live, stored ++ [(path, terms)]⟩ start l =
      if path.location start.workingDirectory = l then some (wholeFile terms)
        else entry? ⟨live, stored⟩ start l := by
  unfold entry?
  rw [List.filter_append]
  by_cases hl : path.location start.workingDirectory = l
  · simp [hl]
  · simp [hl]

end Ledger

namespace Session

def observed (start : Disk) (steps : List SessionStep) : Session × Ledger :=
  steps.foldl (fun (s, g) step => ((s.step step).1, g.observe step (s.step step).2))
    (⟨start, []⟩, {})

def ownTemporaries (s : Session) (key : Nat) : List Temporary :=
  ((s.drafts.lookup key).map (·.temporaryFile s.disk.workingDirectory)).toList

structure GivesUp (s s' : Session) (key : Nat) : Prop where
  entries_eq : s'.disk.entry? = s.disk.entry?
  temporaries : s.disk.temporaries.Perm (s.ownTemporaries key ++ s'.disk.temporaries)

structure Replaces (s s' : Session) (g : Ledger) (key : Nat) (list : StoredList) : Prop where
  exists_terms : ∃ path terms, g.live.lookup key = some (path, terms) ∧
    list = ⟨path, terms.length, (Utf8.encode ("\n".intercalate terms)).length⟩ ∧
    s'.disk.resolve path = .ok (path.location s.disk.workingDirectory) ∧
    s'.disk.entry? = Function.update s.disk.entry? (path.location s.disk.workingDirectory)
      (some (wholeFile terms))
  temporaries : s.disk.temporaries.Perm (s.ownTemporaries key ++ s'.disk.temporaries)

/-- What a step may do, by its answer. -/
def Effect (s s' : Session) (g : Ledger) : SessionStep → SessionAnswer → Prop
  | .create _ _, .failed _ => s' = s
  | .create _ _, _ => s'.disk.entry? = s.disk.entry?
  | .write _ _, _ => s'.disk = s.disk
  | .discard key, _ => s.GivesUp s' key
  | .commit key, .failed _ => s.GivesUp s' key
  | .commit key, .stored list => s.Replaces s' g key list
  | .commit _, _ => s' = s

/-- What a step has to answer. Only a key without a list is unknown, and only the disk decides
whether a list can be begun and whether it can be stored. -/
def Answers (s : Session) (g : Ledger) : SessionStep → SessionAnswer → Prop
  | .create _ path, answer =>
    (s.disk.CanOpen path → answer = .done) ∧
      (¬s.disk.CanOpen path → ∃ cause, answer = .failed (.unwritable path cause))
  | .write key _, answer => answer = if (g.live.lookup key).isSome then .done else .unknownKey
  | .commit key, answer =>
    match g.live.lookup key with
    | none => answer = .unknownKey
    | some (path, terms) =>
      (s.disk.CanReplace path →
        answer = .stored ⟨path, terms.length, (Utf8.encode ("\n".intercalate terms)).length⟩) ∧
      (¬s.disk.CanReplace path → ∃ cause, answer = .failed (.unwritable path cause))
  | .discard _, answer => answer = .done

/-- A draft is what the ledger has of it, and its directory is there. -/
def IsListed (d : Disk) (draft : Nat × Draft) (list : Nat × Path × List String) : Prop :=
  draft.1 = list.1 ∧ draft.2.path = list.2.1 ∧ draft.2.Holds list.2.2 ∧
    ∃ l, d.resolve draft.2.directory = .ok l

theorem IsListed.mono {d d' : Disk} {draft : Nat × Draft} {list : Nat × Path × List String}
    (h : IsListed d draft list) (hgrows : Disk.Grows d d') : IsListed d' draft list := by
  obtain ⟨hkey, hpath, hholds, l, hl⟩ := h
  exact ⟨hkey, hpath, hholds, l, Disk.resolve_of_grows hgrows hl⟩

/-- A session agrees with its ledger. Its drafts have a temporary file each, beside those of
others. -/
structure Tracks (start : Disk) (others : List Temporary) (s : Session) (g : Ledger) : Prop where
  grows : Disk.Grows start s.disk
  keys : (s.drafts.map Prod.fst).Nodup
  drafts : List.Forall₂ (IsListed s.disk) s.drafts g.live
  temporaries : s.disk.temporaries.Perm
    (s.drafts.map (·.2.temporaryFile start.workingDirectory) ++ others)
  entry : ∀ l, s.disk.entry? l = g.entry? start l

variable {start : Disk} {others : List Temporary} {s : Session} {g : Ledger} {key : Nat}

theorem lookup_of_forall₂ {d : Disk} {drafts : List (Nat × Draft)}
    {live : List (Nat × Path × List String)} (h : List.Forall₂ (IsListed d) drafts live)
    (key : Nat) :
    (drafts.lookup key = none ∧ live.lookup key = none) ∨
      ∃ w path terms, drafts.lookup key = some w ∧ live.lookup key = some (path, terms) ∧
        IsListed d (key, w) (key, path, terms) := by
  induction h with
  | nil => exact .inl ⟨rfl, rfl⟩
  | @cons draft list drafts live hlisted _ ih =>
    obtain ⟨k, w⟩ := draft
    obtain ⟨_, path, terms⟩ := list
    obtain ⟨rfl, hrest⟩ := hlisted
    rw [List.lookup_cons, List.lookup_cons]
    by_cases hk : key = k
    · subst hk
      exact .inr ⟨w, path, terms, by simp, by simp, rfl, hrest⟩
    · rw [beq_false_of_ne hk]
      exact ih

theorem forall₂_without {d : Disk} {drafts : List (Nat × Draft)}
    {live : List (Nat × Path × List String)} (h : List.Forall₂ (IsListed d) drafts live)
    (key : Nat) :
    List.Forall₂ (IsListed d) (drafts.filter fun (k, _) => k != key)
      (live.filter fun (k, _) => k != key) := by
  refine List.rel_filter (fun draft list hlisted => ?_) h
  have hkey : draft.1 = list.1 := hlisted.1
  change (draft.1 != key) = true ↔ (list.1 != key) = true
  rw [hkey]

theorem drafts_discard (s : Session) (key : Nat) : (s.discard key).drafts = s.without key := by
  unfold discard
  cases hw : s.drafts.lookup key with
  | none => exact (filter_key_of_lookup_eq_none hw).symm
  | some w => rfl

theorem without_step (s : Session) (step : SessionStep) :
    (s.step step).1.without step.key = s.without step.key := by
  have hdiscard (s : Session) (key : Nat) : (s.discard key).without key = s.without key := by
    rw [without, drafts_discard]
    exact filter_key_idem
  cases step with
  | create key path =>
    change (s.create key path).1.without key = s.without key
    unfold create
    cases Draft.create s.disk path with
    | error f => rfl
    | ok created => exact (List.filter_cons_of_neg (by simp)).trans (hdiscard _ key)
  | write key term =>
    change (s.write key term).1.without key = s.without key
    unfold write
    cases s.drafts.lookup key with
    | none => rfl
    | some w => exact (List.filter_cons_of_neg (by simp)).trans filter_key_idem
  | commit key =>
    change (s.commit key).1.without key = s.without key
    unfold commit
    cases s.drafts.lookup key with
    | none => rfl
    | some w =>
      dsimp only
      split <;> exact filter_key_idem
  | discard key => exact hdiscard s key

namespace Tracks
variable {w : Draft}

theorem workingDirectory (h : Tracks start others s g) :
    s.disk.workingDirectory = start.workingDirectory := h.grows.workingDirectory

/-- The temporary file of a draft is one of those there are; the rest belongs to the others. -/
theorem perm_of_lookup (h : Tracks start others s g) (hw : s.drafts.lookup key = some w) :
    s.disk.temporaries.Perm (w.temporaryFile start.workingDirectory ::
      ((s.without key).map (·.2.temporaryFile start.workingDirectory) ++ others)) := by
  have hdrafts := (Lexicon.perm_of_lookup h.keys hw).map
    (·.2.temporaryFile start.workingDirectory)
  exact h.temporaries.trans (hdrafts.append_right others)

theorem ended (h : Tracks start others s g) (hw : s.drafts.lookup key = some w) {d : Disk}
    {g' : Ledger} (hgrows : Disk.Grows s.disk d)
    (htemporaries : d.temporaries =
      s.disk.temporaries.erase (w.temporaryFile s.disk.workingDirectory))
    (hlive : g'.live = g.without key) (hentry : ∀ l, d.entry? l = g'.entry? start l) :
    Tracks start others ⟨d, s.without key⟩ g' where
  grows := h.grows.trans hgrows
  keys := nodup_filter_key h.keys
  drafts := by
    rw [hlive]
    exact (forall₂_without h.drafts key).imp fun _ _ hlisted => hlisted.mono hgrows
  temporaries := by
    have hperm := (h.perm_of_lookup hw).erase (w.temporaryFile start.workingDirectory)
    rw [List.erase_cons_head] at hperm
    rw [htemporaries, h.workingDirectory]
    exact hperm
  entry := hentry

theorem mem_temporaries (h : Tracks start others s g) (hw : s.drafts.lookup key = some w) :
    w.temporaryFile s.disk.workingDirectory ∈ s.disk.temporaries := by
  rw [h.workingDirectory, (h.perm_of_lookup hw).mem_iff]
  exact List.mem_cons_self

theorem perm_ownTemporaries (h : Tracks start others s g) (hw : s.drafts.lookup key = some w) :
    s.disk.temporaries.Perm (s.ownTemporaries key ++
      s.disk.temporaries.erase (w.temporaryFile s.disk.workingDirectory)) := by
  rw [ownTemporaries, hw]
  exact List.perm_cons_erase (h.mem_temporaries hw)

theorem givenUp (h : Tracks start others s g) (hw : s.drafts.lookup key = some w)
    {d : Disk} (hd : d = w.discard s.disk) :
    Tracks start others ⟨d, s.without key⟩ { g with live := g.without key } ∧
      s.GivesUp ⟨d, s.without key⟩ key := by
  have hdiscard : d = { s.disk with
      temporaries := s.disk.temporaries.erase (w.temporaryFile s.disk.workingDirectory) } := by
    obtain ⟨w', _, _, hw', -, -, -, -, l, hl⟩ :=
      (lookup_of_forall₂ h.drafts key).resolve_left fun hnone => by simp [hw] at hnone
    obtain rfl : w = w' := Option.some.inj (hw.symm.trans hw')
    rw [hd, Draft.discard_eq hl]
  subst hdiscard
  refine ⟨h.ended hw ⟨rfl, fun _ => id, fun _ => id⟩ rfl rfl h.entry, rfl, ?_⟩
  exact h.perm_ownTemporaries hw

theorem discard (h : Tracks start others s g) (key : Nat) :
    Tracks start others (s.discard key) { g with live := g.without key } ∧
      s.GivesUp (s.discard key) key := by
  unfold Session.discard
  rcases lookup_of_forall₂ h.drafts key with ⟨hnone, hlist⟩ | ⟨w, _, _, hw, -⟩
  · rw [hnone, Ledger.without, filter_key_of_lookup_eq_none hlist]
    refine ⟨h, rfl, ?_⟩
    rw [ownTemporaries, hnone]
    exact List.Perm.refl _
  · rw [hw]
    exact h.givenUp hw rfl

theorem write (h : Tracks start others s g) (key : Nat) (term : String) :
    Tracks start others (s.write key term).1
        (g.observe (.write key term) (s.write key term).2) ∧
      (s.write key term).1.disk = s.disk := by
  unfold Session.write
  rcases lookup_of_forall₂ h.drafts key with
    ⟨hnone, -⟩ | ⟨w, path, terms, hw, hlist, -, hpath, hholds, hdirectory⟩
  · rw [hnone]
    exact ⟨h, rfl⟩
  · rw [hw]
    have hperm := h.perm_of_lookup hw
    dsimp only [Ledger.observe]
    rw [hlist]
    refine ⟨⟨h.grows, ?_, ?_, hperm, h.entry⟩, rfl⟩
    · exact List.nodup_cons.mpr ⟨not_mem_keys_filter, nodup_filter_key h.keys⟩
    · exact .cons ⟨rfl, hpath, hholds.append term, hdirectory⟩ (forall₂_without h.drafts key)

theorem commit (h : Tracks start others s g) (key : Nat) :
    Tracks start others (s.commit key).1 (g.observe (.commit key) (s.commit key).2) ∧
      s.Effect (s.commit key).1 g (.commit key) (s.commit key).2 := by
  unfold Session.commit
  rcases lookup_of_forall₂ h.drafts key with
    ⟨hnone, -⟩ | ⟨w, path, terms, hw, hlist, -, hpath, hholds, -⟩
  · rw [hnone]
    exact ⟨h, rfl⟩
  · rw [hw]
    dsimp only
    cases hcommit : w.commit s.disk with
    | mk d result =>
      cases result with
      | error f => exact h.givenUp hw (Draft.spec_of_commit_error hcommit).2
      | ok list =>
        obtain ⟨rfl, hgrows, hresolve, htemporaries, hentry⟩ := Draft.spec_of_commit hcommit
        obtain rfl : w.path = path := hpath
        rw [hholds.content] at hentry
        simp only [Ledger.observe, hlist]
        refine ⟨h.ended hw hgrows htemporaries rfl fun l => ?_, ?_, ?_⟩
        · rw [hentry, h.entry, Ledger.entry?_concat, h.workingDirectory]
          rfl
        · refine ⟨w.path, terms, hlist, ?_, hresolve, ?_⟩
          · rw [hholds.lines, hholds.bytes_eq]
          · funext l
            rw [hentry, Function.update_apply]
            exact if_congr eq_comm rfl rfl
        · exact (h.perm_ownTemporaries hw).trans (by rw [htemporaries])

theorem create (h : Tracks start others s g) (key : Nat) (path : Path) :
    Tracks start others (s.create key path).1
        (g.observe (.create key path) (s.create key path).2) ∧
      s.Effect (s.create key path).1 g (.create key path) (s.create key path).2 := by
  unfold Session.create
  cases hcreate : Draft.create s.disk path with
  | error f => exact ⟨h, rfl⟩
  | ok created =>
    obtain ⟨d, w⟩ := created
    obtain ⟨rfl, hholds, ⟨l, hl⟩, rfl⟩ := Draft.spec_of_create hcreate
    -- Until it has its key, the new draft is one of the others.
    have hopened : Tracks start (w.temporaryFile start.workingDirectory :: others)
        { s with disk := w.opened s.disk } g := by
      refine ⟨h.grows.trans ⟨rfl, fun _ => id, fun _ => id⟩, h.keys, ?_, ?_, h.entry⟩
      · exact h.drafts.imp fun _ _ hlisted => hlisted.mono ⟨rfl, fun _ => id, fun _ => id⟩
      · have hperm := h.temporaries.cons (w.temporaryFile s.disk.workingDirectory)
        rw [h.workingDirectory] at hperm
        refine (List.Perm.of_eq ?_).trans (hperm.trans List.perm_middle.symm)
        rw [Draft.opened, h.workingDirectory]
    obtain ⟨hdiscarded, hentries, -⟩ := hopened.discard key
    have hdrafts := drafts_discard { s with disk := w.opened s.disk } key
    dsimp only
    generalize ({ s with disk := w.opened s.disk } : Session).discard key = s' at *
    have hgrows : Disk.Grows s.disk s'.disk :=
      ⟨hdiscarded.workingDirectory.trans h.workingDirectory.symm,
        fun _ hl => by rw [hentries]; exact hl, fun _ hl => by rw [hentries]; exact hl⟩
    refine ⟨⟨hdiscarded.grows, ?_, ?_, ?_, hdiscarded.entry⟩, hentries⟩
    · refine List.nodup_cons.mpr ⟨?_, hdiscarded.keys⟩
      rw [hdrafts]
      exact not_mem_keys_filter
    · exact .cons ⟨rfl, rfl, hholds, l, Disk.resolve_of_grows hgrows hl⟩ hdiscarded.drafts
    · exact hdiscarded.temporaries.trans List.perm_middle

/-- What one step keeps, and what it may do. -/
theorem step (h : Tracks start others s g) (step : SessionStep) :
    Tracks start others (s.step step).1 (g.observe step (s.step step).2) ∧
      s.Effect (s.step step).1 g step (s.step step).2 := by
  cases step with
  | create key path => exact h.create key path
  | write key term =>
    obtain ⟨htracks, hdisk⟩ := h.write key term
    exact ⟨htracks, hdisk⟩
  | commit key => exact h.commit key
  | discard key => exact h.discard key

theorem answers_create (s : Session) (g : Ledger) (key : Nat) (path : Path) :
    s.Answers g (.create key path) (s.create key path).2 := by
  have hiff : (Draft.create s.disk path).isOk ↔ s.disk.CanOpen path := Draft.isOk_create_iff
  unfold Session.create
  cases hcreate : Draft.create s.disk path with
  | error f =>
    rw [hcreate] at hiff
    obtain ⟨cause, rfl⟩ := Draft.exists_of_create_error hcreate
    exact ⟨fun hopen => absurd (hiff.mpr hopen) Bool.false_ne_true, fun _ => ⟨cause, rfl⟩⟩
  | ok created =>
    rw [hcreate] at hiff
    exact ⟨fun _ => rfl, fun hnot => absurd (hiff.mp rfl) hnot⟩

theorem answers_write (h : Tracks start others s g) (key : Nat) (term : String) :
    s.Answers g (.write key term) (s.write key term).2 := by
  unfold Session.write
  dsimp only [Answers]
  rcases lookup_of_forall₂ h.drafts key with ⟨hnone, hlist⟩ | ⟨w, path, terms, hw, hlist, -⟩
  · rw [hnone, hlist]
    rfl
  · rw [hw, hlist]
    rfl

/-- The temporary file of a list is always there, so that a commit only hangs on its target. -/
theorem answers_commit (h : Tracks start others s g) (key : Nat) :
    s.Answers g (.commit key) (s.commit key).2 := by
  unfold Session.commit
  dsimp only [Answers]
  rcases lookup_of_forall₂ h.drafts key with
    ⟨hnone, hlist⟩ | ⟨w, path, terms, hw, hlist, -, hpath, hholds, l, hl⟩
  · rw [hnone, hlist]
  · obtain rfl : w.path = path := hpath
    have hmem := h.mem_temporaries hw
    rw [Draft.temporaryFile_eq hl] at hmem
    have hiff : (w.commit s.disk).2.isOk ↔ s.disk.CanReplace w.path := Draft.isOk_commit_iff hl hmem
    rw [hw, hlist]
    dsimp only
    cases hcommit : w.commit s.disk with
    | mk d result =>
      rw [hcommit] at hiff
      cases result with
      | error f =>
        obtain ⟨⟨cause, rfl⟩, -⟩ := Draft.spec_of_commit_error hcommit
        exact ⟨fun hput => absurd (hiff.mpr hput) Bool.false_ne_true, fun _ => ⟨cause, rfl⟩⟩
      | ok list =>
        obtain ⟨-, rfl⟩ := Draft.rename_of_commit hcommit
        refine ⟨fun _ => ?_, fun hnot => absurd (hiff.mp rfl) hnot⟩
        rw [hholds.lines, hholds.bytes_eq]

theorem answers (h : Tracks start others s g) (step : SessionStep) :
    s.Answers g step (s.step step).2 := by
  cases step with
  | create key path => exact answers_create s g key path
  | write key term => exact h.answers_write key term
  | commit key => exact h.answers_commit key
  | discard key => rfl

end Tracks

theorem tracks_observed (start : Disk) (steps : List SessionStep) :
    Tracks start start.temporaries (observed start steps).1 (observed start steps).2 := by
  refine List.foldlRecOn (motive := fun r : Session × Ledger =>
    Tracks start start.temporaries r.1 r.2) steps _ ?_ fun r h step _ => (h.step step).1
  exact ⟨Disk.Grows.refl start, List.nodup_nil, .nil, .refl _, fun _ => rfl⟩

/-- After any steps of any lists in writing, there is one temporary file more for each of them,
which holds the terms that were given for it, and each place holds the last whole list stored there
or what it held at the start. Every step for a list in writing is carried out, unless the disk
forbids it. A step only ever replaces a target by the whole list that was given for it, and touches
nothing else but its own temporary file. -/
theorem session_stores_whole_lists (start : Disk) (steps : List SessionStep) :
    let s := (observed start steps).1
    let g := (observed start steps).2
    s.disk.temporaries.length = g.live.length + start.temporaries.length ∧
    List.Forall₂ (IsListed s.disk) s.drafts g.live ∧
    (∀ l, s.disk.entry? l = g.entry? start l) ∧
    ∀ step, s.Answers g step (s.step step).2 ∧ s.Effect (s.step step).1 g step (s.step step).2 ∧
      (s.step step).1.without step.key = s.without step.key := by
  intro s g
  have h := tracks_observed start steps
  refine ⟨?_, h.drafts, h.entry, fun step =>
    ⟨h.answers step, (h.step step).2, without_step s step⟩⟩
  rw [h.temporaries.length_eq, List.length_append, List.length_map, h.drafts.length_eq]

/-- Two lists in writing for one target, the first of which begins with an empty term. -/
def rivalSteps : List SessionStep :=
  [.create 0 (.ofString "t"), .create 1 (.ofString "t"), .write 0 "", .write 1 "b", .write 0 "y"]

/-- Either list has its temporary file until it is stored. The empty term stands as an empty line,
and the second list takes the place of the first. -/
theorem rivals_stored_in_turn :
    let target : Path := .ofString "t"
    let place : Location := [Utf8.encode "t"]
    let both := observed {} rivalSteps
    let one := observed {} (rivalSteps ++ [.commit 0])
    let neither := observed {} (rivalSteps ++ [.commit 0, .commit 1])
    both.2.live = [(0, target, ["", "y"]), (1, target, ["b"])] ∧
    both.1.disk.temporaries.length = 2 ∧ both.1.disk.entry? place = none ∧
    (both.1.step (.write 1 "c")).2 = .done ∧
    (both.1.step (.commit 0)).2 = .stored ⟨target, 2, 2⟩ ∧
    one.1.disk.temporaries.length = 1 ∧
    one.1.disk.entry? place = some (.file (Utf8.encode "\ny")) ∧
    (one.1.step (.commit 1)).2 = .stored ⟨target, 1, 1⟩ ∧
    neither.1.disk.temporaries.length = 0 ∧
    neither.1.disk.entry? place = some (.file (Utf8.encode "b")) := by
  intro target place both one neither
  have hfree : both.1.disk.CanReplace target :=
    ⟨[], Utf8.encode "t", rfl, by decide, by decide +kernel⟩
  have hstill : one.1.disk.CanReplace target :=
    ⟨[], Utf8.encode "t", rfl, by decide, by decide +kernel⟩
  obtain ⟨hboth, -, hbefore, hstep⟩ := session_stores_whole_lists {} rivalSteps
  obtain ⟨hone, -, hbetween, hnext⟩ := session_stores_whole_lists {} (rivalSteps ++ [.commit 0])
  obtain ⟨hneither, -, hafter, -⟩ :=
    session_stores_whole_lists {} (rivalSteps ++ [.commit 0, .commit 1])
  obtain ⟨hwritten, -⟩ := hstep (.write 1 "c")
  obtain ⟨⟨hfirst, -⟩, -⟩ := hstep (.commit 0)
  obtain ⟨⟨hsecond, -⟩, -⟩ := hnext (.commit 1)
  exact ⟨rfl, hboth, hbefore place, hwritten, hfirst hfree, hone, hbetween place, hsecond hstill,
    hneither, hafter place⟩

end Session
end Lexicon
