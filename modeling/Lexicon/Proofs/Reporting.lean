import Lexicon.Program

/-! What a run tells does not bear on what it does, and a quiet one tells nothing. Of a quiet
program only its failures are seen, as errors. -/

namespace Lexicon

namespace RunReport

structure SameWork (r r' : RunReport) : Prop where
  result : r'.result = r.result
  counts : r'.counts = r.counts
  disk : r'.disk = r.disk
  events : r'.events = r.events

theorem SameWork.finish {r r' : RunReport} (h : r.SameWork r') (c : Config)
    (quiet verbose showStats : Bool) (lists : Wordlists) :
    (r.finish c lists).SameWork (r'.finish { c with quiet, verbose, showStats } lists) := by
  unfold RunReport.finish
  rw [h.disk]
  dsimp only
  split
  · exact ⟨h.result, h.counts, rfl, h.events⟩
  cases (deliver c.outputDirectory c.names lists r.disk).failure with
  | some f => exact ⟨rfl, h.counts, rfl, congrArg (· ++ _) h.events⟩
  | none => exact ⟨h.result, h.counts, rfl, congrArg (· ++ _) h.events⟩

end RunReport

theorem sameWork_run (c : Config) (before : RunCounts) (d : Disk)
    (quiet verbose showStats : Bool) :
    (run c before d).SameWork (run { c with quiet, verbose, showStats } before d) := by
  unfold run
  dsimp only
  cases CorpusText.read d c.input with
  | error f => exact ⟨rfl, rfl, rfl, rfl⟩
  | ok corpus =>
    have hstart (records : List String) (g : Generation) (counts : RunCounts) :
        (RunReport.generated c corpus d counts g records.length).SameWork
          (RunReport.generated { c with quiet, verbose, showStats } corpus d counts g
            records.length) := ⟨rfl, rfl, rfl, rfl⟩
    exact (hstart _ _ _).finish c quiet verbose showStats _

section Quiet
variable {c : Config} (h : c.quiet = true)
include h

theorem Config.tell_of_quiet (notices : List Notice) : c.tell notices = [] := if_pos h

theorem RunReport.notices_finish_of_quiet (lists : Wordlists) (r : RunReport) :
    (r.finish c lists).notices = r.notices := by
  have hkept (notices : List Notice) : r.notices ++ c.tell notices = r.notices := by
    rw [c.tell_of_quiet h, List.append_nil]
  unfold finish
  split
  · exact hkept _
  dsimp only
  cases (deliver c.outputDirectory c.names lists r.disk).failure with
  | some f => exact hkept _
  | none => exact hkept _

theorem notices_run_of_quiet (before : RunCounts) (d : Disk) : (run c before d).notices = [] := by
  unfold run
  cases CorpusText.read d c.input with
  | error f => exact c.tell_of_quiet h _
  | ok corpus =>
    dsimp only
    rw [RunReport.notices_finish_of_quiet h]
    exact c.tell_of_quiet h _

end Quiet

theorem Config.tell_of_not_quiet {c : Config} (h : c.quiet = false) (notices : List Notice) :
    c.tell notices = notices := if_neg (Bool.eq_false_iff.mp h)

/-- Errors are not printed to standard output. -/
theorem Notice.print_of_errors {notices : List Notice} (h : ∀ n ∈ notices, n.isError = true)
    (color : Bool) (timing : Timing) : (Notice.print color timing notices).1 = "" := by
  have hnone : notices.filter (·.isError == false) = [] := by
    rw [List.filter_eq_nil_iff]
    intro n hn
    simp [h n hn]
  unfold Notice.print
  dsimp only
  rw [hnone]
  rfl

theorem Notice.exists_print_of_mem {notices : List Notice} {n : Notice} (hn : n ∈ notices)
    (hplain : n.isError = false) (color : Bool) (timing : Timing) :
    ∃ before after,
      (Notice.print color timing notices).1 = before ++ n.text color timing ++ after := by
  have hmem : n ∈ notices.filter (·.isError == false) :=
    List.mem_filter.mpr ⟨hn, beq_iff_eq.mpr hplain⟩
  obtain ⟨front, back, hsplit⟩ := List.append_of_mem hmem
  refine ⟨String.join (front.map (Notice.text color timing)),
    String.join (back.map (Notice.text color timing)), ?_⟩
  unfold Notice.print
  dsimp only
  rw [hsplit, List.map_append, String.join_append, List.map_cons, String.join_cons,
    String.append_assoc]

def Interruption.shown : Interruption → String
  | refused _ => ""
  | help detailed => Help.text detailed
  | version => Help.version

namespace Program

theorem sameWork_perform (o : Options) (d : Disk) (quiet verbose stats : Bool) :
    (perform o d).SameWork (perform { o with quiet, verbose, stats } d) := by
  have hconfig : ({ o with quiet, verbose, stats } : Options).config =
      o.config.map fun c => { c with quiet, verbose, showStats := stats } := by
    have hfault : ({ o with quiet, verbose, stats } : Options).toConfig.fault? =
        o.toConfig.fault? := rfl
    rw [Options.config, Options.config, hfault]
    cases o.toConfig.fault? with
    | some fault => rfl
    | none => rfl
  unfold perform
  rw [hconfig]
  cases o.config with
  | error f => exact ⟨rfl, rfl, rfl, rfl⟩
  | ok c =>
    obtain ⟨hresult, hcounts, hdisk, hevents⟩ := sameWork_run c {} d quiet verbose stats
    exact ⟨hresult, hcounts, hdisk, hevents⟩

theorem notices_perform_of_quiet {o : Options} (h : o.quiet = true) (d : Disk) :
    (perform o d).notices = [] := by
  unfold perform
  cases hconfig : o.config with
  | error f => exact if_pos h
  | ok c =>
    have hquiet : c.quiet = true := by
      unfold Options.config at hconfig
      split at hconfig
      next => cases hconfig
      next =>
        rw [← Except.ok.inj hconfig]
        exact h
    dsimp only
    rw [c.tell_of_quiet hquiet, notices_run_of_quiet hquiet]
    rfl

theorem isError_of_mem_failureNotices {f : Failure} : ∀ n ∈ failureNotices f, n.isError = true := by
  unfold failureNotices
  cases f.cause? <;> simp [Notice.isError]

theorem isError_of_mem_notices {o : Options} (h : o.quiet = true) (environment : Option String)
    (d : Disk) : ∀ n ∈ (report o environment d).notices, n.isError = true := by
  unfold report
  dsimp only
  rw [notices_perform_of_quiet h, List.nil_append]
  cases failure? (perform o d) with
  | none => simp
  | some f => exact isError_of_mem_failureNotices

theorem stdout_of_interruption {words : List Bytes} {halt : Interruption}
    (h : CommandLine.parse words = .error halt) (environment : Option String) (d : Disk)
    (color : Bool) (timing : Timing) :
    (execute words environment d).stdout color timing = halt.shown := by
  rw [execute, h]
  cases halt <;> rfl

theorem stdout_of_quiet {words : List Bytes} {o : Options} (h : CommandLine.parse words = .ok o)
    (hquiet : o.quiet = true) (environment : Option String) (d : Disk) (color : Bool)
    (timing : Timing) : (execute words environment d).stdout color timing = "" := by
  rw [execute, h]
  exact Notice.print_of_errors (isError_of_mem_notices hquiet environment d) color timing

end Program

/-- How much a run tells makes no difference to what it returns, counts and leaves on disk, and none
to what the program does. Quiet, they print nothing to standard output, and the program only shows
there what is asked for in place of a run. -/
theorem flags_only_affect_reporting :
    (∀ c before d quiet verbose showStats,
      (run c before d).SameWork (run { c with quiet, verbose, showStats } before d)) ∧
    (∀ o environment environment' d quiet verbose stats,
      let report := Program.report o environment d
      let report' := Program.report { o with quiet, verbose, stats } environment' d
      report'.failure = report.failure ∧ report'.counts = report.counts ∧
        report'.disk = report.disk ∧ report'.events = report.events) ∧
    (∀ c before d color timing, c.quiet = true →
      Notice.print color timing (run c before d).notices = ("", "")) ∧
    ∀ words environment d color timing,
      let stdout := (Program.execute words environment d).stdout color timing
      match CommandLine.parse words with
      | .error halt => stdout = halt.shown
      | .ok o => o.quiet = true → stdout = "" := by
  refine ⟨sameWork_run, ?program, ?run, ?stdout⟩
  case program =>
    intro o environment environment' d quiet verbose stats report report'
    obtain ⟨hresult, hcounts, hdisk, hevents⟩ :=
      Program.sameWork_perform o d quiet verbose stats
    refine ⟨?_, hcounts, hdisk, hevents⟩
    simp only [report, report', Program.report, Program.failure?, hresult]
  case run =>
    intro c before d color timing hquiet
    rw [notices_run_of_quiet hquiet]
    rfl
  case stdout =>
    intro words environment d color timing stdout
    split
    next halt hparse => exact Program.stdout_of_interruption hparse environment d color timing
    next o hparse =>
      intro hquiet
      exact Program.stdout_of_quiet hparse hquiet environment d color timing

/-- A quiet run that misses its corpus fails without a word on standard output. -/
theorem quiet_failure_is_silent :
    let outcome := Program.execute [Utf8.encode "-q"] none {}
    outcome.exitCode = 1 ∧ outcome.stdout false ⟨"", ""⟩ = "" ∧
      Notice.print true ⟨"", ""⟩ (run { quiet := true } {} {}).notices = ("", "") := by
  intro outcome
  obtain ⟨-, -, hrun, hprogram⟩ := flags_only_affect_reporting
  have hexit : outcome.exitCode = 1 := by decide +kernel
  have hquiet : (CommandLine.parse [Utf8.encode "-q"]).toOption.map (·.quiet) = some true := by
    decide +kernel
  have hstdout := hprogram [Utf8.encode "-q"] none {} false ⟨"", ""⟩
  split at hstdout
  next hparse =>
    rw [hparse] at hquiet
    cases hquiet
  next hparse =>
    rw [hparse] at hquiet
    exact ⟨hexit, hstdout (Option.some.inj hquiet), hrun _ _ _ _ _ rfl⟩

end Lexicon
