import Lexicon.Proofs.Footprint
import Lexicon.Proofs.Seeds
import Lexicon.Proofs.Storable

/-! A run that is done again changes nothing. Its directory is there, its lists can be stored again,
and are the same as before. -/

namespace Lexicon

section Preparing
variable {d d' made : Disk} {p : Path}

theorem exists_resolve_of_prepareDirectory (hp : p.parents ≠ [])
    (h : prepareDirectory d p = (made, none)) : ∃ l, made.resolve p = .ok l := by
  unfold prepareDirectory at h
  split at h
  next hexists =>
    obtain ⟨rfl, -⟩ := Prod.mk.inj h
    exact exists_of_isOk hexists
  next =>
    split at h
    next hnested =>
      obtain ⟨rfl, -⟩ := Prod.mk.inj h
      exact ⟨_, (Disk.resolve_of_createNested hp hnested).1⟩
    next => cases (Prod.mk.inj h).2

/-- Once a directory is there, nothing is made for it. The empty path and the root have nothing
above them, so that nothing is made for them at any time. -/
theorem prepareDirectory_again (h : prepareDirectory d p = (made, none))
    (hgrows : Disk.Grows made d') : prepareDirectory d' p = (d', none) := by
  by_cases hp : p.parents = []
  · rw [prepareDirectory, Disk.createDirectories, Disk.createNested, if_pos hp]
    exact ite_self _
  · obtain ⟨l, hl⟩ := exists_resolve_of_prepareDirectory hp h
    have hexists : d'.exists? p = true := by
      rw [Disk.exists?, Disk.resolve_of_grows hgrows hl]
      rfl
    rw [prepareDirectory, if_pos hexists]

end Preparing

section Delivering
variable {directory : Path} {names : FileNames} {lists : Wordlists} {d : Disk}

theorem deliverLists_again {kinds : List ListKind}
    (h : (deliverLists directory names lists d kinds).failure = none) :
    let first := deliverLists directory names lists d kinds
    let second := deliverLists directory names lists first.disk kinds
    second.failure = none ∧ (∀ l, second.disk.entry? l = first.disk.entry? l) ∧
      second.disk.temporaries = first.disk.temporaries := by
  intro first second
  have hagain : second.failure = none :=
    deliverLists_of_storable fun kind hkind => storable_deliverLists h hkind
  refine ⟨hagain, fun l => ?_, (hasStored_deliverLists ..).1⟩
  rw [entry?_deliverLists hagain, (grows_deliverLists h).workingDirectory, entry?_deliverLists h,
    ← Option.or_assoc, Option.or_self]

theorem deliver_again (h : (deliver directory names lists d).failure = none) :
    let first := deliver directory names lists d
    let second := deliver directory names lists first.disk
    second.failure = none ∧ (∀ l, second.disk.entry? l = first.disk.entry? l) ∧
      second.disk.temporaries = first.disk.temporaries := by
  obtain ⟨made, hprepare, -, hfirst⟩ := exists_of_deliver h
  rw [hfirst] at h ⊢
  have hsecond (d' : Disk) (hd' : Disk.Grows made d') :
      deliver directory names lists d' = deliverLists directory names lists d' ListKind.all := by
    rw [deliver, prepareDirectory_again hprepare hd']
  dsimp only
  rw [hsecond _ (grows_deliverLists h)]
  exact deliverLists_again h

end Delivering

/-- A corpus that no list has taken the place of is read again as before. -/
theorem Disk.Footprint.readCorpus_eq {d d' : Disk} {directory p : Path} {names : FileNames}
    {lists : Wordlists} {corpus : CorpusText} (h : d.Footprint d' directory names lists)
    (hread : CorpusText.read d p = .ok corpus)
    (hother : ∀ kind, d'.resolve (targetPath directory names kind) ≠ d'.resolve p) :
    CorpusText.read d' p = .ok corpus := by
  unfold CorpusText.read at hread
  split at hread
  next content hcontent =>
    obtain ⟨l, hresolve, -⟩ := exists_of_read hcontent
    have hplace : d'.resolve p = .ok (p.location d.workingDirectory) := by
      rw [← location_of_resolve hresolve]
      exact resolve_of_grows h.grows hresolve
    have hkept : d'.read p = .ok content := h.read_eq hcontent fun kind => by
      rw [← hplace]
      exact hother kind
    rw [CorpusText.read_of_read hkept]
    exact hread
  next => cases hread

/-- A run that succeeds, and whose lists spare its corpus, can be done again at any time, with the
same lists and counters, and leaves everything as it is then. -/
theorem run_again {c : Config} {before : RunCounts} {d : Disk} {lists : Wordlists}
    (h : (run c before d).result = .ok lists)
    (hspared : ∀ kind,
      (run c before d).disk.resolve (targetPath c.outputDirectory c.names kind) ≠
        (run c before d).disk.resolve c.input)
    (before' : RunCounts) :
    let first := run c before d
    let second := run c before' first.disk
    second.result = .ok lists ∧ second.counts = first.counts ∧
      (∀ l, second.disk.entry? l = first.disk.entry? l) ∧
      second.disk.temporaries = first.disk.temporaries := by
  intro first second
  cases hread : CorpusText.read d c.input with
  | error f =>
    rw [(run_of_read_error before hread).1] at h
    cases h
  | ok corpus =>
    have hagain : CorpusText.read first.disk c.input = .ok corpus :=
      (footprint_run before hread).readCorpus_eq hread hspared
    have hcounts : second.counts = first.counts :=
      (counts_run before' hagain).trans (counts_run before hread).symm
    cases hdry : c.dryRun with
    | true =>
      obtain ⟨hfirst, -⟩ := run_of_dryRun before hread hdry
      obtain ⟨hsecond, hdisk⟩ := run_of_dryRun before' hagain hdry
      refine ⟨hsecond.trans (hfirst.symm.trans h), hcounts, fun l => ?_, ?_⟩
      · rw [show second.disk = first.disk from hdisk]
      · rw [show second.disk = first.disk from hdisk]
    | false =>
      obtain ⟨hfirst, hfirstdisk⟩ := run_of_not_dryRun before hread hdry
      obtain ⟨hsecond, hseconddisk⟩ := run_of_not_dryRun before' hagain hdry
      obtain ⟨hdeliver, rfl⟩ := Delivery.outcome_eq_ok_iff.mp (hfirst.symm.trans h)
      obtain ⟨hfailure, hentry, htemporaries⟩ := deliver_again hdeliver
      unfold Config.deliver at hfirstdisk hsecond hseconddisk
      rw [← hfirstdisk] at hfailure hentry htemporaries
      refine ⟨?_, hcounts, fun l => ?_, ?_⟩
      · exact hsecond.trans (Delivery.outcome_eq_ok_iff.mpr ⟨hfailure, rfl⟩)
      · rw [show second.disk = _ from hseconddisk]
        exact hentry l
      · rw [show second.disk = _ from hseconddisk]
        exact htemporaries

/-- Doing a run again changes nothing. If it succeeds and no list leads to its corpus, then it
succeeds again with the same lists and counters, whatever the counters are by then, and leaves every
file and directory as it is. The seeds of neither run matter. Where a list leads is asked of the
disk that the first run leaves, since the directories on the way may not be there before. -/
theorem rerun_changes_nothing {c : Config} {before : RunCounts} {d : Disk} {lists : Wordlists}
    (s : Seeds) (h : (s.run c before d).result = .ok lists)
    (hspared : ∀ kind,
      (s.run c before d).disk.resolve (targetPath c.outputDirectory c.names kind) ≠
        (s.run c before d).disk.resolve c.input)
    (s' : Seeds) (before' : RunCounts) :
    let first := s.run c before d
    let second := s'.run c before' first.disk
    second.result = .ok lists ∧ second.counts = first.counts ∧
      (∀ l, second.disk.entry? l = first.disk.entry? l) ∧
      second.disk.temporaries = first.disk.temporaries ∧
      first = (run c before d).effect ∧ second = (run c before' first.disk).effect := by
  intro first second
  have hfirst : first = (run c before d).effect := s.run_eq c before d
  have hsecond : second = (run c before' first.disk).effect := s'.run_eq c before' first.disk
  rw [s.run_eq] at h hspared
  obtain ⟨hresult, hcounts, hentry, htemporaries⟩ := run_again h hspared before'
  refine ⟨?_, ?_, ?_, ?_, hfirst, hsecond⟩
  all_goals
    rw [hsecond, hfirst]
    assumption

def Seeds.ascending : Seeds := ⟨fun _ set => set.toList, fun _ _ => .refl _⟩

def Seeds.descending : Seeds := ⟨fun _ set => set.toList.reverse, fun _ _ => List.reverse_perm _⟩

/-- The run over a corpus of one constant, which its lists spare, is done again by the same program
with other seeds. -/
theorem constant_run_again :
    let first := Seeds.ascending.run defaultNamesConfig {} constantDisk
    let second := Seeds.descending.run defaultNamesConfig first.counts first.disk
    second.result.isOk ∧ second.counts = first.counts ∧
      ∀ l, second.disk.entry? l = first.disk.entry? l := by
  intro first second
  have hok : first.result.isOk := by decide +kernel
  obtain ⟨lists, hlists⟩ := exists_of_isOk hok
  have hspared (kind : ListKind) : first.disk.resolve
      (targetPath defaultNamesConfig.outputDirectory defaultNamesConfig.names kind) ≠
        first.disk.resolve defaultNamesConfig.input := by
    cases kind <;> decide +kernel
  obtain ⟨hresult, hcounts, hentry, -⟩ :=
    rerun_changes_nothing Seeds.ascending hlists hspared Seeds.descending first.counts
  refine ⟨?_, hcounts, hentry⟩
  rw [show second.result = _ from hresult]
  rfl

end Lexicon
