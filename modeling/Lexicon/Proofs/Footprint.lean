import Lexicon.Program
import Lexicon.Proofs.Run
import Lexicon.Proofs.Stages
import Lexicon.Proofs.WholeWrites

/-! What the program leaves on disk. A run that fails before it writes leaves everything as it was.
Any other puts lists where their paths lead, makes the directories that are missing on the way to
them, and leaves the rest as it was. -/

namespace Lexicon

/-- What is found somewhere once some lists have been stored was there before, or is one of them. -/
theorem storedEntries_cases (workingDirectory : Location) (directory : Path) (names : FileNames)
    (lists : Wordlists) (entries : Location → Option Entry) (kinds : List ListKind)
    (l : Location) :
    let stored := storedEntries workingDirectory directory names lists entries kinds
    stored l = entries l ∨
      ∃ kind ∈ kinds, targetLocation workingDirectory directory names kind = l ∧
        stored l = some (.file (Utf8.encode (lists.text kind))) := by
  induction kinds generalizing entries with
  | nil => exact .inl rfl
  | cons first kinds ih =>
    have hrest := ih (Function.update entries
      (targetLocation workingDirectory directory names first)
      (some (.file (Utf8.encode (lists.text first)))))
    rcases hrest with hsame | ⟨kind, hkind, hl, hfile⟩
    · rw [Function.update_apply] at hsame
      split at hsame
      next hl => exact .inr ⟨first, List.mem_cons_self, hl.symm, hsame⟩
      next => exact .inl hsame
    · exact .inr ⟨kind, List.mem_cons_of_mem first hkind, hl, hfile⟩

namespace Disk

/-- Lists have been put where their paths lead, directories have been made where there was nothing
on the way to the one that is meant for the lists, and nothing else has changed. -/
structure Footprint (d d' : Disk) (directory : Path) (names : FileNames) (lists : Wordlists) :
    Prop where
  temporaries : d'.temporaries = d.temporaries
  grows : Grows d d'
  entry : ∀ l, d'.entry? l = d.entry? l ∨
    (l ∈ directory.way d.workingDirectory ∧ d.entry? l = none ∧ d'.entry? l = some .directory) ∨
    ∃ kind, d'.resolve (targetPath directory names kind) = .ok l ∧
      d'.entry? l = some (.file (Utf8.encode (lists.text kind)))

theorem exists_of_read {d : Disk} {p : Path} {content : Bytes} (h : d.read p = .ok content) :
    ∃ l, d.resolve p = .ok l ∧ d.entry? l = some (.file content) := by
  obtain ⟨l, hresolve, h⟩ := exists_of_bind_eq_ok h
  refine ⟨l, hresolve, ?_⟩
  cases hentry : d.entry? l with
  | none => simp [hentry] at h
  | some e =>
    cases e with
    | directory => simp [hentry] at h
    | file => simpa [hentry] using h

namespace Footprint
variable {d d' : Disk} {directory : Path} {names : FileNames} {lists : Wordlists}

theorem refl (d : Disk) : Footprint d d directory names lists :=
  ⟨rfl, Grows.refl d, fun _ => .inl rfl⟩

theorem of_made (h : MadeDirectories d d' (directory.way d.workingDirectory)) :
    Footprint d d' directory names lists :=
  ⟨h.temporaries, h.grows, fun l => (h.entry l).imp_right .inl⟩

theorem read_eq (h : Footprint d d' directory names lists) {p : Path} {content : Bytes}
    (hread : d.read p = .ok content)
    (hother : ∀ kind, d'.resolve (targetPath directory names kind) ≠
      .ok (p.location d.workingDirectory)) : d'.read p = .ok content := by
  obtain ⟨l, hresolve, hentry⟩ := exists_of_read hread
  have hlocation := location_of_resolve hresolve
  refine read_of_resolve (resolve_of_grows h.grows hresolve) ?_
  rcases h.entry l with hsame | ⟨-, hnone, -⟩ | ⟨kind, hkind, -⟩
  · rw [hsame, hentry]
  · rw [hnone] at hentry
    cases hentry
  · rw [hlocation] at hkind
    exact absurd hkind (hother kind)

end Footprint
end Disk

section Deliver
variable (directory : Path) (names : FileNames) (lists : Wordlists) (d : Disk)

/-- A delivery that fails has left what it stored before. -/
theorem footprint_deliver :
    Disk.Footprint d (deliver directory names lists d).disk directory names lists := by
  obtain ⟨made, hmade, ⟨f, hfailed⟩ | hlists⟩ := deliver_cases directory names lists d
  · rw [hfailed]
    exact Disk.Footprint.of_made hmade
  · obtain ⟨htemporaries, hgrows, done, rest, -, hstored, -⟩ :=
      hasStored_deliverLists directory names lists made ListKind.all
    rw [hlists]
    refine ⟨htemporaries.trans hmade.temporaries, hmade.grows.trans hgrows, fun l => ?_⟩
    rw [hstored.entries_eq]
    rcases storedEntries_cases made.workingDirectory directory names lists made.entry? done l with
      hsame | ⟨kind, hkind, rfl, hfile⟩
    · rw [hsame]
      exact (hmade.entry l).imp_right .inl
    · exact .inr (.inr ⟨kind, hstored.resolve kind hkind, hfile⟩)

theorem deliverLists_failure_eq_none_iff (kinds : List ListKind) :
    (deliverLists directory names lists d kinds).failure = none ↔
      (deliverLists directory names lists d kinds).written.map Prod.fst = kinds := by
  obtain ⟨-, -, done, rest, rfl, hstored, hend⟩ :=
    hasStored_deliverLists directory names lists d kinds
  generalize deliverLists directory names lists d (done ++ rest) = r at hstored hend ⊢
  have hdone : r.written.map Prod.fst = done := by
    rw [hstored.written, List.map_map]
    exact List.map_id done
  rw [hdone, List.self_eq_append_right]
  cases hfailure : r.failure with
  | none =>
    rw [hfailure] at hend
    exact iff_of_true rfl hend
  | some f =>
    rw [hfailure] at hend
    obtain ⟨kind, after, _, _, hrest, -⟩ := hend
    exact iff_of_false (by simp) (by simp [hrest])

theorem deliver_failure_eq_none_iff :
    (deliver directory names lists d).failure = none ↔
      (deliver directory names lists d).written.map Prod.fst = ListKind.all := by
  obtain ⟨made, -, ⟨f, hfailed⟩ | hlists⟩ := deliver_cases directory names lists d
  · rw [hfailed]
    exact iff_of_false (by simp) (by simp [ListKind.all])
  · rw [hlists]
    exact deliverLists_failure_eq_none_iff directory names lists made ListKind.all

end Deliver

theorem footprint_run {c : Config} {d : Disk} {corpus : CorpusText} (before : RunCounts)
    (h : CorpusText.read d c.input = .ok corpus) :
    d.Footprint (run c before d).disk c.outputDirectory c.names
      (c.generation corpus.text).lists := by
  cases hdry : c.dryRun with
  | true =>
    rw [(run_of_dryRun before h hdry).2]
    exact Disk.Footprint.refl d
  | false =>
    rw [(run_of_not_dryRun before h hdry).2]
    exact footprint_deliver ..

/-- A run succeeds if and only if its corpus can be read and, unless it is dry, all lists are
written. -/
theorem isOk_run_iff (c : Config) (before : RunCounts) (d : Disk) :
    (run c before d).result.isOk ↔ ∃ corpus, CorpusText.read d c.input = .ok corpus ∧
      (c.dryRun ∨
        (c.deliver (c.generation corpus.text).lists d).written.map Prod.fst = ListKind.all) := by
  cases hread : CorpusText.read d c.input with
  | error f =>
    rw [(run_of_read_error before hread).1]
    exact iff_of_false Bool.false_ne_true (by simp)
  | ok corpus =>
    simp only [Except.ok.injEq, exists_eq_left']
    cases hdry : c.dryRun with
    | true =>
      rw [(run_of_dryRun before hread hdry).1]
      exact iff_of_true rfl (.inl rfl)
    | false =>
      rw [(run_of_not_dryRun before hread hdry).1, Delivery.isOk_outcome_iff, Config.deliver,
        deliver_failure_eq_none_iff]
      simp

theorem Options.exists_of_config_error {o : Options} {f : Failure} (h : o.config = .error f) :
    ∃ fault, f = .misconfigured fault := by
  unfold config at h
  split at h
  next fault _ => exact ⟨fault, (Except.error.inj h).symm⟩
  next => cases h

/-- A command line that is refused is an error; one that asks for a text is none. -/
def Interruption.exitCode : Interruption → Nat
  | refused _ => 2
  | help _ => 0
  | version => 0

namespace Program
variable {words : List Bytes} {o : Options} {c : Config} (environment : Option String) (d : Disk)

theorem execute_of_interruption {halt : Interruption}
    (hparse : CommandLine.parse words = .error halt) :
    (execute words environment d).exitCode = halt.exitCode ∧
      (execute words environment d).disk d = d := by
  rw [execute, hparse]
  cases halt <;> exact ⟨rfl, rfl⟩

theorem execute_of_config_error {f : Failure} (hparse : CommandLine.parse words = .ok o)
    (hconfig : o.config = .error f) :
    (execute words environment d).exitCode = 1 ∧ (execute words environment d).disk d = d := by
  rw [execute, hparse]
  simp [Outcome.exitCode, Outcome.disk, report, perform, hconfig, failed, failure?]

theorem execute_of_config (hparse : CommandLine.parse words = .ok o) (hconfig : o.config = .ok c) :
    (execute words environment d).exitCode = (if (run c {} d).result.isOk then 0 else 1) ∧
      (execute words environment d).disk d = (run c {} d).disk := by
  rw [execute, hparse]
  simp only [Outcome.exitCode, Outcome.disk, report, perform, hconfig, failure?, and_true]
  cases (run c {} d).result with
  | error f => rfl
  | ok lists => rfl

end Program

/-- The program leaves everything as it was if its command line is refused or configures no run, and
so does a run whose corpus cannot be read. The exit code tells whether all lists have been written,
or need not be. Whatever happens, nothing changes but in the places of the lists and on the way to
their directory, so that the corpus stays as it is unless a list leads to it. -/
theorem execute_footprint (words : List Bytes) (environment : Option String) (d : Disk) :
    let outcome := Program.execute words environment d
    let after := outcome.disk d
    (∀ halt, CommandLine.parse words = .error halt →
      after = d ∧ outcome.exitCode = halt.exitCode) ∧
    (∀ o f, CommandLine.parse words = .ok o → o.config = .error f →
      after = d ∧ outcome.exitCode = 1 ∧ ∃ fault, f = .misconfigured fault) ∧
    (∀ o c, CommandLine.parse words = .ok o → o.config = .ok c →
      after = (run c {} d).disk ∧
        outcome.exitCode = if (run c {} d).result.isOk then 0 else 1) ∧
    ∀ c before,
      let r := run c before d
      (r.result.isOk ↔ ∃ corpus, CorpusText.read d c.input = .ok corpus ∧
        (c.dryRun ∨
          (c.deliver (c.generation corpus.text).lists d).written.map Prod.fst = ListKind.all)) ∧
      (∀ f, CorpusText.read d c.input = .error f →
        r.disk = d ∧ r.counts = before ∧ r.result = .error f ∧
          ∃ cause, f = .unreadable c.input cause) ∧
      (∀ corpus, CorpusText.read d c.input = .ok corpus →
        d.Footprint r.disk c.outputDirectory c.names (c.generation corpus.text).lists) ∧
      ∀ content, d.read c.input = .ok content →
        (∀ kind, r.disk.resolve (targetPath c.outputDirectory c.names kind) ≠
          .ok (c.input.location d.workingDirectory)) →
        r.disk.read c.input = .ok content := by
  intro outcome after
  refine ⟨?_, ?_, ?_, fun c before => ⟨isOk_run_iff c before d, ?_, ?_, ?_⟩⟩
  · intro halt hparse
    obtain ⟨hexit, hdisk⟩ := Program.execute_of_interruption environment d hparse
    exact ⟨hdisk, hexit⟩
  · intro o f hparse hconfig
    obtain ⟨hexit, hdisk⟩ := Program.execute_of_config_error environment d hparse hconfig
    exact ⟨hdisk, hexit, Options.exists_of_config_error hconfig⟩
  · intro o c hparse hconfig
    obtain ⟨hexit, hdisk⟩ := Program.execute_of_config environment d hparse hconfig
    exact ⟨hdisk, hexit⟩
  · intro f hread
    obtain ⟨hresult, hcounts, hdisk⟩ := run_of_read_error before hread
    exact ⟨hdisk, hcounts, hresult, CorpusText.exists_of_read_error hread⟩
  · intro corpus hread
    exact footprint_run before hread
  · intro content hread
    exact (footprint_run before (CorpusText.read_of_read hread)).read_eq hread

/-- The corpus of a disk is missed under its usual name, and is spared under its own. -/
theorem missed_or_spared :
    (Program.execute [] none constantDisk).disk constantDisk = constantDisk ∧
      (Program.execute [] none constantDisk).exitCode = 1 ∧
      (run defaultNamesConfig {} constantDisk).disk.read defaultNamesConfig.input = .ok [0x41] := by
  obtain ⟨-, -, hprogram, hrun⟩ := execute_footprint [] none constantDisk
  have hparse : CommandLine.parse [] = .ok {} := rfl
  have hconfig : ({} : Options).config = .ok ({} : Options).toConfig := by
    have hvalid : ({} : Options).toConfig.fault?.isNone := by decide +kernel
    rw [Options.config, Option.isNone_iff_eq_none.mp hvalid]
  have hmissing : CorpusText.read constantDisk ({} : Options).toConfig.input =
      .error (.unreadable ({} : Options).toConfig.input ⟨.notFound, none⟩) := rfl
  obtain ⟨hdisk, hexit⟩ := hprogram {} _ hparse hconfig
  obtain ⟨-, hfailed, -, -⟩ := hrun ({} : Options).toConfig {}
  obtain ⟨hkept, -, hresult, -⟩ := hfailed _ hmissing
  rw [hkept] at hdisk
  rw [hresult] at hexit
  obtain ⟨-, -, -, hspared⟩ := hrun defaultNamesConfig {}
  have hcontent : constantDisk.read defaultNamesConfig.input = .ok [0x41] := by decide +kernel
  refine ⟨hdisk, hexit, hspared _ hcontent fun kind => ?_⟩
  cases kind <;> decide +kernel

end Lexicon
