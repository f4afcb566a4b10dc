import Lexicon.Proofs.FileNames
import Lexicon.Proofs.Stages

/-! What a run leaves on disk. Names are accepted by their text, but files are told apart by where
their paths lead, so that one list can be written over another. -/

namespace Lexicon

/-- A run that writes its lists returns those of its corpus, and leaves the disk as their delivery
does. -/
theorem deliver_of_run {c : Config} {before : RunCounts} {d : Disk} {lists : Wordlists}
    (hdry : c.dryRun = false) (h : (run c before d).result = .ok lists) :
    (∃ corpus, CorpusText.read d c.input = .ok corpus ∧
      lists = generate c.delimiter c.noise (recordsOf corpus.text)) ∧
    (deliver c.outputDirectory c.names lists d).failure = none ∧
    (run c before d).disk = (deliver c.outputDirectory c.names lists d).disk := by
  cases hread : CorpusText.read d c.input with
  | error f =>
    rw [(run_of_read_error before hread).1] at h
    cases h
  | ok corpus =>
    obtain ⟨hresult, hdisk⟩ := run_of_not_dryRun before hread hdry
    obtain ⟨hfailure, rfl⟩ := Delivery.outcome_eq_ok_iff.mp (hresult.symm.trans h)
    exact ⟨⟨corpus, rfl, rfl⟩, hfailure, hdisk⟩

theorem Config.names_fault?_of_fault? {c : Config} (h : c.fault? = none) :
    c.names.fault? = none := by
  unfold fault? at h
  cases hnoise : c.noise.fault? with
  | none => simpa [hnoise] using h
  | some fault => simp [hnoise] at h

/-- After a run each list is intact on disk if and only if no other list with another text leads to
the same location. The check of the names rules that out for names without a slash, but not for
others. -/
theorem run_intact_iff {c : Config} {before : RunCounts} {d : Disk} {lists : Wordlists}
    (hdry : c.dryRun = false) (h : (run c before d).result = .ok lists) :
    let intact := ∀ kind, (run c before d).disk.read (targetPath c.outputDirectory c.names kind) =
      .ok (Utf8.encode (lists.text kind))
    (intact ↔ ∀ kind other,
      targetLocation d.workingDirectory c.outputDirectory c.names kind =
          targetLocation d.workingDirectory c.outputDirectory c.names other →
        lists.text kind = lists.text other) ∧
    (c.fault? = none → (∀ kind, IsPlainName (c.names.get kind)) → intact) := by
  intro intact
  obtain ⟨-, hfailure, hdisk⟩ := deliver_of_run hdry h
  have hiff := deliver_intact_iff hfailure
  rw [← hdisk] at hiff
  refine ⟨hiff, fun hvalid hplain => hiff.mpr fun kind other heq => ?_⟩
  have hnames := (Config.names_fault?_of_fault? hvalid)
  rw [targetLocation_injective_of_deliver hfailure hnames hplain d.workingDirectory heq]

def constantDisk : Disk := ({} : Disk).put [Utf8.encode "corpus"] (.file [0x41])

def defaultNamesConfig : Config where
  input := .ofString "corpus"

/-- A configuration whose second name is another spelling of the first. -/
def aliasedNamesConfig : Config where
  input := .ofString "corpus"
  names := { vars := "./terms.txt" }

theorem exists_of_isOk {ε α : Type} {x : Except ε α} (h : x.isOk) : ∃ a, x = .ok a := by
  cases x with
  | error => cases h
  | ok a => exact ⟨a, rfl⟩

theorem default_lists_intact :
    ∃ lists, (run defaultNamesConfig {} constantDisk).result = .ok lists ∧ ∀ kind,
      (run defaultNamesConfig {} constantDisk).disk.read
          (targetPath defaultNamesConfig.outputDirectory defaultNamesConfig.names kind) =
        .ok (Utf8.encode (lists.text kind)) := by
  have hvalid : defaultNamesConfig.fault?.isNone := by decide +kernel
  have hok : (run defaultNamesConfig {} constantDisk).result.isOk := by decide +kernel
  have hplain (kind : ListKind) : IsPlainName (defaultNamesConfig.names.get kind) := by
    unfold IsPlainName
    cases kind <;> decide
  obtain ⟨lists, hlists⟩ := exists_of_isOk hok
  exact ⟨lists, hlists, (run_intact_iff rfl hlists).2 (Option.isNone_iff_eq_none.mp hvalid) hplain⟩

/-- The names are accepted and the run succeeds, but the terms are lost to the variables. -/
theorem aliased_lists_overwrite :
    aliasedNamesConfig.fault? = none ∧ ∃ lists,
      (run aliasedNamesConfig {} constantDisk).result = .ok lists ∧
      (run aliasedNamesConfig {} constantDisk).disk.read
          (targetPath aliasedNamesConfig.outputDirectory aliasedNamesConfig.names .terms) ≠
        .ok (Utf8.encode (lists.text .terms)) := by
  have hvalid : aliasedNamesConfig.fault?.isNone := by decide +kernel
  have hok : (run aliasedNamesConfig {} constantDisk).result.isOk := by decide +kernel
  have htext : (run aliasedNamesConfig {} constantDisk).result.toOption.map (·.text .terms) =
      some "A" := by decide +kernel
  have hread : ((run aliasedNamesConfig {} constantDisk).disk.read
      (targetPath aliasedNamesConfig.outputDirectory aliasedNamesConfig.names .terms)).toOption =
        some [] := by decide +kernel
  obtain ⟨lists, hlists⟩ := exists_of_isOk hok
  refine ⟨Option.isNone_iff_eq_none.mp hvalid, lists, hlists, fun hintact => ?_⟩
  rw [hlists] at htext
  have hterms : lists.text .terms = "A" := Option.some.inj htext
  rw [hintact, hterms] at hread
  exact absurd hread (by decide)

end Lexicon
