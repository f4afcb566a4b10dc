import Lexicon.Proofs.Reload
import Lexicon.Proofs.Reporting
import Lexicon.Proofs.Run
import Lexicon.Proofs.WholeWrites

/-! A dry run tells what the run itself would do. It fails for the same corpus, makes the same
lists, and shows for each of them the number of terms that would be written. -/

namespace Lexicon

section Delivering
variable {directory : Path} {names : FileNames} {lists : Wordlists} {d : Disk}

/-- What is stored first does not hang on what follows. -/
theorem deliverLists_failure_of_append {kinds more : List ListKind}
    (h : (deliverLists directory names lists d (kinds ++ more)).failure = none) :
    (deliverLists directory names lists d kinds).failure = none := by
  induction kinds generalizing d with
  | nil => rfl
  | cons kind kinds ih =>
    obtain ⟨d', list, hstore, hrest, -⟩ := exists_of_deliverLists_cons h
    rw [deliverLists_cons, hstore]
    exact ih hrest

/-- A list is found as it was written, unless a later one was put in its place. -/
theorem read_deliverLists_of_last {earlier later : List ListKind} {kind : ListKind}
    (h : (deliverLists directory names lists d (earlier ++ kind :: later)).failure = none)
    (hlast : ∀ other ∈ later, targetLocation d.workingDirectory directory names other ≠
      targetLocation d.workingDirectory directory names kind) :
    (deliverLists directory names lists d (earlier ++ kind :: later)).disk.read
        (targetPath directory names kind) = .ok (Utf8.encode (lists.text kind)) := by
  have hkind : kind ∈ earlier ++ kind :: later := by simp
  refine Disk.read_of_resolve (resolve_deliverLists h hkind) ?_
  have hnone : later.filter (fun other => targetLocation d.workingDirectory directory names other =
      targetLocation d.workingDirectory directory names kind) = [] := by
    simpa [List.filter_eq_nil_iff] using hlast
  rw [entry?_deliverLists h, List.filter_append, List.filter_cons_of_pos (by simp), hnone]
  simp

end Delivering

def Disk.entryCount? (d : Disk) (p : Path) : Option Nat :=
  match d.read p with
  | .ok content => some (entriesOf (utf8.decode content)).length
  | .error _ => none

theorem Disk.entryCount?_of_read {d : Disk} {p : Path} {text : String}
    (h : d.read p = .ok (Utf8.encode text)) : d.entryCount? p = some (entriesOf text).length := by
  rw [entryCount?, h]
  dsimp only
  rw [Utf8.decode_encode]

/-- A line of what is printed ends in a text. -/
def HasLineEnd (printed text : String) : Prop :=
  ∃ before after, printed = before ++ text ++ "\n" ++ after

theorem hasLineEnd_of_bullet {notices : List Notice} {text : String}
    (h : .bullet text ∈ notices) (color : Bool) (timing : Timing) :
    HasLineEnd (Notice.print color timing notices).1 text := by
  obtain ⟨before, after, hprint⟩ := Notice.exists_print_of_mem h rfl color timing
  refine ⟨before ++ ("  " ++ Style.green.paint color "•" ++ " "), after, ?_⟩
  rw [hprint]
  simp [Notice.text, Notice.lines, Notice.marked, String.append_assoc]

namespace RunReport

/-- What a dry run tells of a list that the run itself would store. -/
def predictedNotice (names : FileNames) (kind : ListKind) (list : StoredList) : Notice :=
  .bullet (names.get kind ++ s!" ({list.terms} terms)")

def predictedNotices (c : Config) (written : List (ListKind × StoredList)) : List Notice :=
  [.header "DRY RUN - No files will be written",
   .subheader "Output configuration:",
   .bullet ("Output directory: " ++ c.outputDirectory.quoted)]
  ++ written.map fun (kind, list) => predictedNotice c.names kind list

theorem predictedNotice_mem {c : Config} {written : List (ListKind × StoredList)} {kind : ListKind}
    {list : StoredList} (h : (kind, list) ∈ written) :
    predictedNotice c.names kind list ∈ predictedNotices c written :=
  List.mem_append_right _ (List.mem_map.mpr ⟨(kind, list), h, rfl⟩)

theorem storedNotice_mem {written : List (ListKind × StoredList)} {kind : ListKind}
    {list : StoredList} (h : (kind, list) ∈ written) :
    storedNotice kind list ∈ storedNotices written :=
  List.mem_cons_of_mem _ (List.mem_map.mpr ⟨(kind, list), h, rfl⟩)

theorem dryRunNotices_eq {c : Config} {lists : Wordlists} {written : List (ListKind × StoredList)}
    (h : written = ListKind.all.map (storedList c.outputDirectory c.names lists)) :
    dryRunNotices c lists = predictedNotices c written := by
  rw [h]
  rfl

end RunReport

section Telling
variable {c : Config} {d : Disk} {corpus : CorpusText} (before : RunCounts)
variable (h : CorpusText.read d c.input = .ok corpus)
include h

theorem notices_run_of_dryRun (hdry : c.dryRun = true) :
    let r := run c before d
    r.notices = c.tell (.header "Loading corpus..." ::
        RunReport.loadedNotices c (recordsOf corpus.text).length r.counts) ++
      c.tell (RunReport.dryRunNotices c (c.generation corpus.text).lists ++
        RunReport.summaryNotices c r.counts) := by
  intro r
  have hcounts : r.counts = _ := counts_run before h
  have hr : r = _ := run_of_read before h
  rw [hcounts, hr, RunReport.finish, if_pos hdry]
  rfl

theorem notices_run_of_deliver (hdry : c.dryRun = false)
    (hdeliver : (c.deliver (c.generation corpus.text).lists d).failure = none) :
    let r := run c before d
    r.notices = c.tell (.header "Loading corpus..." ::
        RunReport.loadedNotices c (recordsOf corpus.text).length r.counts) ++
      c.tell (.header "Writing wordlists..." ::
        RunReport.storedNotices (c.deliver (c.generation corpus.text).lists d).written ++
        RunReport.summaryNotices c r.counts) := by
  intro r
  have hcounts : r.counts = _ := counts_run before h
  have hr : r = _ := run_of_read before h
  have hnot : ¬c.dryRun = true := by simp [hdry]
  unfold Config.deliver at hdeliver ⊢
  rw [hcounts, hr, RunReport.finish, if_neg hnot]
  dsimp only [RunReport.generated]
  rw [hdeliver]

end Telling

theorem counts_run_dryRun (c : Config) (before : RunCounts) (d : Disk) :
    (run { c with dryRun := true } before d).counts =
      (run { c with dryRun := false } before d).counts := by
  cases hread : CorpusText.read d c.input with
  | error f =>
    obtain ⟨-, hdry, -⟩ := run_of_read_error (c := { c with dryRun := true }) before hread
    obtain ⟨-, hreal, -⟩ := run_of_read_error (c := { c with dryRun := false }) before hread
    exact hdry.trans hreal.symm
  | ok corpus =>
    have hdry := counts_run (c := { c with dryRun := true }) before hread
    have hreal := counts_run (c := { c with dryRun := false }) before hread
    exact hdry.trans hreal.symm

/-- Both runs open alike. Then the one tells what the other has written. -/
theorem exists_opening (c : Config) (before : RunCounts) {d : Disk} {corpus : CorpusText}
    (h : CorpusText.read d c.input = .ok corpus)
    (hdeliver : (c.deliver (c.generation corpus.text).lists d).failure = none) :
    let dry := run { c with dryRun := true } before d
    let real := run { c with dryRun := false } before d
    let written := (c.deliver (c.generation corpus.text).lists d).written
    ∃ opening,
      dry.notices = opening ++ c.tell
        (RunReport.predictedNotices c written ++ RunReport.summaryNotices c dry.counts) ∧
      real.notices = opening ++ c.tell (.header "Writing wordlists..." ::
        RunReport.storedNotices written ++ RunReport.summaryNotices c real.counts) := by
  intro dry real written
  have hwritten : written = _ := written_of_deliver hdeliver
  have hcounts : dry.counts = real.counts := counts_run_dryRun c before d
  refine ⟨c.tell (.header "Loading corpus..." ::
    RunReport.loadedNotices c (recordsOf corpus.text).length real.counts), ?_, ?_⟩
  · rw [← RunReport.dryRunNotices_eq hwritten, ← hcounts]
    exact notices_run_of_dryRun (c := { c with dryRun := true }) before h rfl
  · exact notices_run_of_deliver (c := { c with dryRun := false }) before h rfl hdeliver

/-- A delivery tells as many terms of each list as there are entries in its file, both when that has
just been written and, unless a later list takes its place, in the end. -/
theorem exists_counted_of_deliver {directory : Path} {names : FileNames} {delimiter : Char}
    {noise : NoiseRule} {text : String} {d : Disk}
    (h : (deliver directory names (textLists delimiter noise text) d).failure = none)
    {earlier later : List ListKind} {kind : ListKind}
    (hall : ListKind.all = earlier ++ kind :: later) :
    let lists := textLists delimiter noise text
    let delivery := deliver directory names lists d
    let made := (prepareDirectory d directory).1
    let place := targetLocation d.workingDirectory directory names
    ∃ list, (kind, list) ∈ delivery.written ∧ list.terms = (lists.get kind).size ∧
      (deliverLists directory names lists made (earlier ++ [kind])).disk.entryCount? list.path =
        some list.terms ∧
      ((∀ other ∈ later, place other ≠ place kind) →
        delivery.disk.entryCount? list.path = some list.terms) := by
  intro lists delivery made place
  have hmem : storedList directory names lists kind ∈ delivery.written := by
    rw [show delivery.written = _ from written_of_deliver h]
    exact List.mem_map_of_mem kind.mem_all
  have hsize : (entriesOf (lists.text kind)).length = (lists.get kind).size := by
    rw [entriesOf_text, Std.ExtTreeSet.length_toList]
  obtain ⟨_, hprepare, hworking, hlists⟩ := exists_of_deliver h
  obtain rfl : made = _ := congrArg Prod.fst hprepare
  rw [hlists, hall] at h
  refine ⟨_, hmem, rfl, ?_, fun hlast => ?_⟩
  · have hfirst : (deliverLists directory names lists made (earlier ++ [kind])).failure = none := by
      rw [← List.singleton_append, ← List.append_assoc] at h
      exact deliverLists_failure_of_append h
    rw [← hsize]
    exact Disk.entryCount?_of_read (read_deliverLists_of_last hfirst (by simp))
  · rw [← hsize, show delivery = _ from hlists, hall]
    refine Disk.entryCount?_of_read (read_deliverLists_of_last h ?_)
    rw [hworking]
    exact hlast

/-- A run that is not quiet tells of each list what the dry run has told of it. -/
theorem told_of_not_quiet {c : Config} (hquiet : c.quiet = false)
    {written : List (ListKind × StoredList)} {dry real opening after after' : List Notice}
    {start : Notice}
    (hdry : dry = opening ++ c.tell (RunReport.predictedNotices c written ++ after))
    (hreal : real = opening ++ c.tell (start :: RunReport.storedNotices written ++ after'))
    {kind : ListKind} {list : StoredList} (h : (kind, list) ∈ written) :
    RunReport.predictedNotice c.names kind list ∈ dry ∧
      RunReport.storedNotice kind list ∈ real := by
  rw [hdry, hreal, Config.tell_of_not_quiet hquiet, Config.tell_of_not_quiet hquiet]
  constructor
  · exact List.mem_append_right _ (List.mem_append_left _ (RunReport.predictedNotice_mem h))
  · refine List.mem_append_right _ (List.mem_append_left _ ?_)
    exact List.mem_cons_of_mem _ (RunReport.storedNotice_mem h)

/-- A dry run leaves the disk as it is, and fails for the corpus that the run itself fails for, with
the same failure. When the run succeeds the dry run has returned the same lists and counters, and
the number that it shows for each list is the number of terms that the run tells to have written and
the number of entries in the file. Unless it is quiet, that number is told and printed. -/
theorem dry_run_predicts_run (c : Config) (before : RunCounts) (d : Disk) :
    let dry := run { c with dryRun := true } before d
    let real := run { c with dryRun := false } before d
    dry.disk = d ∧ dry.counts = real.counts ∧
    (∀ f, dry.result = .error f ↔ CorpusText.read d c.input = .error f) ∧
    (∀ f, dry.result = .error f → real.result = .error f) ∧
    ∀ lists, real.result = .ok lists →
      let delivery := c.deliver lists d
      let made := (prepareDirectory d c.outputDirectory).1
      let place := targetLocation d.workingDirectory c.outputDirectory c.names
      dry.result = .ok lists ∧ real.disk = delivery.disk ∧
      delivery.written.map Prod.fst = ListKind.all ∧
      (∃ opening,
        dry.notices = opening ++ c.tell (RunReport.predictedNotices c delivery.written ++
          RunReport.summaryNotices c dry.counts) ∧
        real.notices = opening ++ c.tell (.header "Writing wordlists..." ::
          RunReport.storedNotices delivery.written ++ RunReport.summaryNotices c real.counts)) ∧
      ∀ earlier kind later, ListKind.all = earlier ++ kind :: later →
        ∃ list, (kind, list) ∈ delivery.written ∧ list.terms = (lists.get kind).size ∧
          (c.quiet = false →
            RunReport.predictedNotice c.names kind list ∈ dry.notices ∧
            RunReport.storedNotice kind list ∈ real.notices ∧
            ∀ color timing, HasLineEnd (Notice.print color timing dry.notices).1
              (c.names.get kind ++ s!" ({list.terms} terms)")) ∧
          (deliverLists c.outputDirectory c.names lists made
            (earlier ++ [kind])).disk.entryCount? list.path = some list.terms ∧
          ((∀ other ∈ later, place other ≠ place kind) →
            real.disk.entryCount? list.path = some list.terms) := by
  intro dry real
  have hcounts : dry.counts = real.counts := counts_run_dryRun c before d
  cases hread : CorpusText.read d c.input with
  | error f =>
    obtain ⟨hdry, -, hdisk⟩ := run_of_read_error (c := { c with dryRun := true }) before hread
    obtain ⟨hreal, -, -⟩ := run_of_read_error (c := { c with dryRun := false }) before hread
    refine ⟨hdisk, hcounts, fun g => ?_, fun g hg => ?_, fun lists h => ?_⟩
    · have hresult : dry.result = .error f := hdry
      rw [hresult, Except.error.injEq, Except.error.injEq]
    · exact hreal.trans (hdry.symm.trans hg)
    · cases hreal.symm.trans h
  | ok corpus =>
    obtain ⟨hdry, hdisk⟩ := run_of_dryRun (c := { c with dryRun := true }) before hread rfl
    obtain ⟨hreal, hrealdisk⟩ :=
      run_of_not_dryRun (c := { c with dryRun := false }) before hread rfl
    refine ⟨hdisk, hcounts, fun g => ?_, fun g hg => ?_, fun lists h => ?_⟩
    · exact iff_of_false (fun hg => nomatch hdry.symm.trans hg) (fun hg => nomatch hg)
    · cases hdry.symm.trans hg
    obtain ⟨hdeliver, hlists⟩ := Delivery.outcome_eq_ok_iff.mp (hreal.symm.trans h)
    obtain rfl : textLists c.delimiter c.noise corpus.text = lists := hlists
    intro delivery made place
    have hopening := exists_opening c before hread hdeliver
    refine ⟨hdry, hrealdisk, ?_, hopening, ?_⟩
    · rw [show delivery.written = _ from written_of_deliver hdeliver]
      rfl
    · intro earlier kind later hall
      obtain ⟨list, hmem, hterms, hfirst, hlast⟩ := exists_counted_of_deliver hdeliver hall
      rw [show real.disk = _ from hrealdisk]
      refine ⟨list, hmem, hterms, fun hquiet => ?_, hfirst, hlast⟩
      obtain ⟨opening, hdrynotices, hrealnotices⟩ := hopening
      obtain ⟨hpredicted, hstored⟩ := told_of_not_quiet hquiet hdrynotices hrealnotices hmem
      exact ⟨hpredicted, hstored, hasLineEnd_of_bullet hpredicted⟩

/-- The dry run shows one constant, and the run writes one. -/
theorem constant_shown_and_written :
    let shown : String := "const.txt (1 terms)"
    let dry := run { defaultNamesConfig with dryRun := true } {} constantDisk
    let real := run defaultNamesConfig {} constantDisk
    .bullet shown ∈ dry.notices ∧
      (∀ color timing, HasLineEnd (Notice.print color timing dry.notices).1 shown) ∧
      dry.disk = constantDisk ∧
      ∃ list, list.terms = 1 ∧ RunReport.storedNotice .consts list ∈ real.notices ∧
        real.disk.entryCount? list.path = some list.terms := by
  intro shown dry real
  obtain ⟨hkept, -, -, -, hreal⟩ := dry_run_predicts_run defaultNamesConfig {} constantDisk
  have hok : real.result.isOk := by decide +kernel
  have hsize : real.result.toOption.map (fun lists => (lists.get .consts).size) = some 1 := by
    decide +kernel
  obtain ⟨lists, hlists⟩ := exists_of_isOk hok
  obtain ⟨-, -, -, -, hcounts⟩ := hreal lists hlists
  obtain ⟨list, -, hterms, htold, -, hlast⟩ := hcounts [.terms, .vars] .consts [] rfl
  obtain ⟨hpredicted, hstored, hprinted⟩ := htold rfl
  rw [hlists] at hsize
  have hone : list.terms = 1 := hterms.trans (Option.some.inj hsize)
  have hshown : defaultNamesConfig.names.get .consts ++ s!" ({list.terms} terms)" = shown := by
    rw [hone]
    decide +kernel
  rw [RunReport.predictedNotice, hshown] at hpredicted
  rw [hshown] at hprinted
  exact ⟨hpredicted, hprinted, hkept, list, hone, hstored, hlast (by simp)⟩

end Lexicon
