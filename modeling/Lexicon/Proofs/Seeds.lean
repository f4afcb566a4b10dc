import Lexicon.Proofs.Counts
import Lexicon.Proofs.Delivery
import Lexicon.Proofs.Stages
import Lexicon.Proofs.Union

/-! Runs whose sets list their members in any order, as hash tables do. What such a run makes and
leaves does not hang on the order. -/

namespace Lexicon

inductive Pass where
  | filtering
  | parting
  | storing (kind : ListKind)

/-- The seeds of the hash tables of one run, as the orders in which the members of a set are met. -/
structure Seeds where
  listing : Pass → Vocabulary → List String
  perm : ∀ pass set, (listing pass set).Perm set.toList

structure RunEffect where
  result : Except Failure Wordlists
  counts : RunCounts
  disk : Disk

def RunReport.effect (r : RunReport) : RunEffect := ⟨r.result, r.counts, r.disk⟩

namespace Seeds
variable (s : Seeds)

def generation (c : Config) (text : String) : Generation :=
  let tokens := tokenize c.delimiter (recordsOf text)
  let filtered := Filtered.ofTerms c.noise (s.listing .filtering tokens.terms)
  { tokens, filtered, byCasing := ByCasing.ofTerms (s.listing .parting filtered.terms) }

def storeList (kind : ListKind) (d : Disk) (p : Path) (terms : Vocabulary) :
    Disk × Except Failure StoredList :=
  match Draft.create d p with
  | .error f => (d, .error f)
  | .ok (d, w) =>
    ((Lexicon.ascending (s.listing (.storing kind) terms)).foldl Draft.append w).commit d

def deliverLists (directory : Path) (names : FileNames) (lists : Wordlists) (d : Disk) :
    List ListKind → Delivery
  | [] => { disk := d }
  | kind :: rest =>
    match s.storeList kind d (targetPath directory names kind) (lists.get kind) with
    | (d, .error f) => { disk := d, failure := some f }
    | (d, .ok list) =>
      let report := deliverLists directory names lists d rest
      { report with written := (kind, list) :: report.written }

def deliver (directory : Path) (names : FileNames) (lists : Wordlists) (d : Disk) : Delivery :=
  match prepareDirectory d directory with
  | (d, some f) => { disk := d, failure := some f }
  | (d, none) => s.deliverLists directory names lists d ListKind.all

def run (c : Config) (before : RunCounts) (d : Disk) : RunEffect :=
  match CorpusText.read d c.input with
  | .error f => ⟨.error f, before, d⟩
  | .ok corpus =>
    let g := s.generation c corpus.text
    let counts := g.counts { before with corpusBytes := corpus.text.utf8ByteSize }
    if c.dryRun then ⟨.ok g.lists, counts, d⟩
    else
      let delivery := s.deliver c.outputDirectory c.names g.lists d
      ⟨delivery.outcome g.lists, counts, delivery.disk⟩

theorem lists_generation (c : Config) (text : String) :
    (s.generation c text).lists = (c.generation text).lists := by
  refine Wordlists.eq_of_get_eq fun kind => ?_
  exact get_ofListings (s.perm .filtering _) (s.perm .parting _) kind

theorem counts_generation (c : Config) (text : String) (before : RunCounts) :
    (s.generation c text).counts before = (c.generation text).counts before := by
  have hlists := s.lists_generation c text
  have hfilter : (s.generation c text).filtered.counts = (c.generation text).filtered.counts := by
    have hperm := s.perm .filtering (tokenize c.delimiter (recordsOf text)).terms
    exact (Filtered.counts_ofTerms ..).trans
      ((Filtered.tally_perm c.noise hperm).trans (Filtered.counts_ofVocabulary ..).symm)
  have hparts : (s.generation c text).byCasing = (c.generation text).byCasing :=
    congrArg Wordlists.byCasing hlists
  rw [Generation.counts, Generation.counts, hfilter, hparts]
  rfl

theorem storeList_eq (kind : ListKind) (d : Disk) (p : Path) (terms : Vocabulary) :
    s.storeList kind d p terms = Lexicon.storeList d p terms := by
  have hsame : Lexicon.ascending (s.listing (.storing kind) terms) =
      Lexicon.ascending terms.toList :=
    ascending_congr fun term => (s.perm (.storing kind) terms).mem_iff
  unfold storeList Lexicon.storeList
  cases Draft.create d p with
  | error f => rfl
  | ok created =>
    dsimp only
    rw [hsame]

theorem deliverLists_cons (directory : Path) (names : FileNames) (lists : Wordlists) (d : Disk)
    (kind : ListKind) (kinds : List ListKind) :
    s.deliverLists directory names lists d (kind :: kinds) =
      match s.storeList kind d (targetPath directory names kind) (lists.get kind) with
      | (d, .error f) => { disk := d, failure := some f }
      | (d, .ok list) =>
        let report := s.deliverLists directory names lists d kinds
        { report with written := (kind, list) :: report.written } :=
  (rfl)

theorem deliverLists_eq (directory : Path) (names : FileNames) (lists : Wordlists) (d : Disk)
    (kinds : List ListKind) : s.deliverLists directory names lists d kinds =
      Lexicon.deliverLists directory names lists d kinds := by
  induction kinds generalizing d with
  | nil => rfl
  | cons kind kinds ih =>
    rw [deliverLists_cons, storeList_eq, Lexicon.deliverLists_cons]
    generalize Lexicon.storeList d (targetPath directory names kind) (lists.get kind) = stored
    obtain ⟨d', result⟩ := stored
    cases result with
    | error f => rfl
    | ok list =>
      dsimp only
      rw [ih]

theorem deliver_eq (directory : Path) (names : FileNames) (lists : Wordlists) (d : Disk) :
    s.deliver directory names lists d = Lexicon.deliver directory names lists d := by
  unfold deliver Lexicon.deliver
  cases prepareDirectory d directory with
  | mk made failure =>
    cases failure with
    | some f => rfl
    | none => exact s.deliverLists_eq directory names lists made ListKind.all

/-- The seeds do not matter to a run. -/
theorem run_eq (c : Config) (before : RunCounts) (d : Disk) :
    s.run c before d = (Lexicon.run c before d).effect := by
  unfold run
  cases hread : CorpusText.read d c.input with
  | error f =>
    obtain ⟨hresult, hcounts, hdisk⟩ := run_of_read_error before hread
    rw [RunReport.effect, hresult, hcounts, hdisk]
  | ok corpus =>
    rw [RunReport.effect, counts_run before hread]
    dsimp only
    rw [counts_generation, lists_generation, deliver_eq]
    split
    next hdry =>
      obtain ⟨hresult, hdisk⟩ := run_of_dryRun before hread hdry
      rw [hresult, hdisk]
    next hdry =>
      obtain ⟨hresult, hdisk⟩ := run_of_not_dryRun before hread (by simpa using hdry)
      rw [hresult, hdisk]
      rfl

end Seeds
end Lexicon
