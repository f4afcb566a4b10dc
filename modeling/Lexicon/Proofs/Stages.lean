import Lexicon.Run

/-! What a run does, stage by stage: it fails to load the corpus, or makes the wordlists and then
writes them, unless it is dry. -/

namespace Lexicon

namespace CorpusText
variable {d : Disk} {p : Path}

theorem read_of_read {content : Bytes} (h : d.read p = .ok content) :
    CorpusText.read d p = .ok (ofContent p content) := by
  rw [read, h]

theorem exists_of_read_error {f : Failure} (h : CorpusText.read d p = .error f) :
    ∃ cause, f = .unreadable p cause := by
  unfold read at h
  split at h
  next => cases h
  next => exact ⟨_, (Except.error.inj h).symm⟩

end CorpusText

def Delivery.outcome (r : Delivery) (lists : Wordlists) : Except Failure Wordlists :=
  match r.failure with
  | none => .ok lists
  | some f => .error f

theorem Delivery.outcome_eq_ok_iff {r : Delivery} {lists result : Wordlists} :
    r.outcome lists = .ok result ↔ r.failure = none ∧ lists = result := by
  unfold outcome
  cases r.failure <;> simp

theorem Delivery.isOk_outcome_iff {r : Delivery} {lists : Wordlists} :
    (r.outcome lists).isOk ↔ r.failure = none := by
  unfold outcome
  cases r.failure with
  | none => exact iff_of_true rfl rfl
  | some f => exact iff_of_false Bool.false_ne_true (Option.some_ne_none f)

def Config.deliver (c : Config) (lists : Wordlists) (d : Disk) : Delivery :=
  Lexicon.deliver c.outputDirectory c.names lists d

namespace RunReport

theorem counts_finish (c : Config) (lists : Wordlists) (r : RunReport) :
    (r.finish c lists).counts = r.counts := by
  unfold finish
  split
  · rfl
  dsimp only
  split
  · rfl
  · rfl

theorem finish_of_dryRun {c : Config} (h : c.dryRun = true) (lists : Wordlists) (r : RunReport) :
    (r.finish c lists).result = r.result ∧ (r.finish c lists).disk = r.disk := by
  rw [finish, if_pos h]
  exact ⟨rfl, rfl⟩

theorem finish_of_not_dryRun {c : Config} (h : c.dryRun = false) {lists : Wordlists} {r : RunReport}
    (hresult : r.result = .ok lists) :
    (r.finish c lists).result = (c.deliver lists r.disk).outcome lists ∧
      (r.finish c lists).disk = (c.deliver lists r.disk).disk := by
  have hnot : ¬c.dryRun = true := by simp [h]
  unfold finish Delivery.outcome Config.deliver
  rw [if_neg hnot]
  dsimp only
  split
  next hfailure =>
    rw [hfailure]
    exact ⟨rfl, rfl⟩
  next hfailure =>
    rw [hfailure]
    exact ⟨hresult, rfl⟩

end RunReport

def Config.generation (c : Config) (text : String) : Generation :=
  Generation.ofRecords c.delimiter c.noise (recordsOf text)

section Run
variable {c : Config} {d : Disk} (before : RunCounts)

theorem run_of_read_error {f : Failure} (h : CorpusText.read d c.input = .error f) :
    (run c before d).result = .error f ∧ (run c before d).counts = before ∧
      (run c before d).disk = d := by
  rw [run, h]
  exact ⟨rfl, rfl, rfl⟩

variable {corpus : CorpusText} (h : CorpusText.read d c.input = .ok corpus)
include h

theorem run_of_read : run c before d =
    (RunReport.generated c corpus d
      ((c.generation corpus.text).counts { before with corpusBytes := corpus.text.utf8ByteSize })
      (c.generation corpus.text) (recordsOf corpus.text).length).finish c
        (c.generation corpus.text).lists := by
  rw [run, h]
  rfl

theorem counts_run : (run c before d).counts =
    (c.generation corpus.text).counts { before with corpusBytes := corpus.text.utf8ByteSize } := by
  rw [run_of_read before h, RunReport.counts_finish]
  rfl

theorem run_of_dryRun (hdry : c.dryRun = true) :
    (run c before d).result = .ok (c.generation corpus.text).lists ∧
      (run c before d).disk = d := by
  rw [run_of_read before h]
  exact RunReport.finish_of_dryRun hdry _ _

theorem run_of_not_dryRun (hdry : c.dryRun = false) :
    let lists := (c.generation corpus.text).lists
    (run c before d).result = (c.deliver lists d).outcome lists ∧
      (run c before d).disk = (c.deliver lists d).disk := by
  rw [run_of_read before h]
  exact RunReport.finish_of_not_dryRun hdry rfl

end Run
end Lexicon
