import Lexicon.Proofs.Generation
import Mathlib.Algebra.GroupWithZero.Nat

/-! What the counters of a run add up to. Every piece of a record is counted once, as a new term or
as a repeat, and every new term once more, as dropped or as kept in one of the two parts. -/

namespace Lexicon

namespace Vocabulary

theorem size_add (set : Vocabulary) (term : String) :
    (set.add term).2.size = set.size + if (set.add term).1 then 1 else 0 := by
  unfold add
  split
  next => rfl
  next h =>
    rw [Std.ExtTreeSet.size_insert, if_neg (by simpa using h)]
    rfl

theorem nodup_toList (set : Vocabulary) : set.toList.Nodup :=
  set.pairwise_toList.imp fun h => h.ne

/-- A vocabulary whose members are some of another's lists those of the other's list. -/
theorem toList_eq_filter {set part : Vocabulary} {keep : String → Bool}
    (h : ∀ term, term ∈ part ↔ term ∈ set ∧ keep term) :
    part.toList = set.toList.filter keep := by
  refine eq_of_ascending part.pairwise_toList (set.pairwise_toList.filter keep) fun term => ?_
  rw [List.mem_filter, Std.ExtTreeSet.mem_toList, Std.ExtTreeSet.mem_toList, h]

theorem size_eq_countP {set part : Vocabulary} {keep : String → Bool}
    (h : ∀ term, term ∈ part ↔ term ∈ set ∧ keep term) :
    part.size = set.toList.countP keep := by
  rw [← Std.ExtTreeSet.length_toList, toList_eq_filter h, List.countP_eq_length_filter]

end Vocabulary

theorem length_splitOn (delimiter : Char) (cs : List Char) :
    (cs.splitOn delimiter).length = 1 + cs.count delimiter := by
  induction cs with
  | nil => rfl
  | cons c cs ih =>
    rw [List.splitOn_cons_eq_if_modifyHead, List.count_cons]
    by_cases hc : c = delimiter
    · simp [hc, ih, Nat.add_assoc]
    · simp [hc, ih]

/-- Each delimiter of a record ends a piece, and there is one more at the end. -/
theorem length_pieces (delimiter : Char) (record : String) :
    (pieces delimiter record).length = 1 + record.toList.count delimiter := by
  rw [pieces, List.length_map, length_splitOn]

/-- A counter that every step of a loop raises ends raised by all of them. -/
theorem counter_foldl {σ α : Type} (counter : σ → Nat) (step : σ → α → σ) (amount : α → Nat)
    (hstep : ∀ s a, counter (step s a) = counter s + amount a) (as : List α) (s : σ) :
    counter (as.foldl step s) = counter s + (as.map amount).sum := by
  induction as generalizing s with
  | nil => rfl
  | cons a as ih =>
    rw [List.foldl_cons, ih, hstep, List.map_cons, List.sum_cons, Nat.add_assoc]

namespace Tokens

/-- Every piece met so far was new when it came, and is a term, or was a repeat. -/
def IsBalanced (t : Tokens) : Prop := t.counts.tokens = t.terms.size + t.counts.duplicates

theorem IsBalanced.addTerm {t : Tokens} (h : t.IsBalanced) (term : String) :
    (t.addTerm term).IsBalanced := by
  have hsize := t.terms.size_add term
  unfold IsBalanced at h ⊢
  unfold Tokens.addTerm
  dsimp only
  rw [h, hsize]
  cases (t.terms.add term).1 with
  | true => simp only [if_true]; omega
  | false => simp only [Bool.false_eq_true, if_false]; omega

theorem IsBalanced.addRecord {t : Tokens} (h : t.IsBalanced) (delimiter : Char) (record : String) :
    (Tokens.addRecord delimiter t record).IsBalanced := by
  have hstart : IsBalanced { t with counts := { t.counts with records := t.counts.records + 1 } } :=
    h
  exact List.foldlRecOn _ _ hstart fun _ ht term _ => ht.addTerm term

theorem isBalanced_tokenize (delimiter : Char) (records : List String) :
    (tokenize delimiter records).IsBalanced :=
  List.foldlRecOn _ _ rfl fun _ ht record _ => ht.addRecord delimiter record

theorem records_addRecord (delimiter : Char) (t : Tokens) (record : String) :
    (addRecord delimiter t record).counts.records = t.counts.records + 1 := by
  have hsplit := counter_foldl (fun t : Tokens => t.counts.records) addTerm (fun _ => 0)
    (fun _ _ => rfl) (pieces delimiter record)
  exact (hsplit _).trans (by simp)

theorem tokens_addRecord (delimiter : Char) (t : Tokens) (record : String) :
    (addRecord delimiter t record).counts.tokens =
      t.counts.tokens + (1 + record.toList.count delimiter) := by
  have hsplit := counter_foldl (fun t : Tokens => t.counts.tokens) addTerm (fun _ => 1)
    (fun _ _ => rfl) (pieces delimiter record)
  exact (hsplit _).trans (by simp [length_pieces])

theorem records_tokenize (delimiter : Char) (records : List String) :
    (tokenize delimiter records).counts.records = records.length := by
  have hall := counter_foldl (fun t : Tokens => t.counts.records) _ _
    (records_addRecord delimiter) records {}
  exact hall.trans (by simp)

theorem tokens_tokenize (delimiter : Char) (records : List String) :
    (tokenize delimiter records).counts.tokens =
      (records.map fun record => 1 + record.toList.count delimiter).sum := by
  have hall := counter_foldl (fun t : Tokens => t.counts.tokens) _ _
    (tokens_addRecord delimiter) records {}
  exact hall.trans (Nat.zero_add _)

end Tokens

namespace Filtered

def tally (f : NoiseRule) (terms : List String) : FilterCounts where
  empty := terms.countP (f.verdict · == .empty)
  numeric := terms.countP (f.verdict · == .numeric)
  retained := terms.countP (f.verdict · == .retained)

theorem counts_foldl_addTerm (f : NoiseRule) (s : Filtered) (terms : List String) :
    (terms.foldl (addTerm f) s).counts =
      { empty := s.counts.empty + (tally f terms).empty
        numeric := s.counts.numeric + (tally f terms).numeric
        retained := s.counts.retained + (tally f terms).retained } := by
  induction terms generalizing s with
  | nil => rfl
  | cons term terms ih =>
    rw [List.foldl_cons, ih]
    unfold addTerm tally
    cases h : f.verdict term <;> simp [h, Nat.add_assoc, Nat.add_comm]

theorem counts_ofTerms (f : NoiseRule) (terms : List String) :
    (ofTerms f terms).counts = tally f terms := by
  have h := counts_foldl_addTerm f {} terms
  simp only [Nat.zero_add] at h
  exact h

theorem counts_ofVocabulary (f : NoiseRule) (terms : Vocabulary) :
    (ofVocabulary f terms).counts = tally f terms.toList := counts_ofTerms f terms.toList

theorem tally_perm (f : NoiseRule) {terms others : List String} (h : terms.Perm others) :
    tally f terms = tally f others := by
  rw [tally, tally, h.countP_eq, h.countP_eq, h.countP_eq]

/-- Every term is given one verdict. -/
theorem sum_tally (f : NoiseRule) (terms : List String) :
    (tally f terms).empty + (tally f terms).numeric + (tally f terms).retained = terms.length := by
  induction terms with
  | nil => rfl
  | cons term terms ih =>
    unfold tally at ih ⊢
    dsimp only at ih ⊢
    simp only [List.countP_cons, List.length_cons]
    cases f.verdict term <;> simp <;> omega

theorem empty_tally (f : NoiseRule) (terms : List String) :
    (tally f terms).empty = terms.count "" := by
  have hverdict (term : String) : (f.verdict term == .empty) = (term == "") := by
    unfold NoiseRule.verdict
    by_cases hempty : term = ""
    · simp [hempty]
    · cases hd : f.drops term <;> simp [hempty]
  exact List.countP_congr fun term _ => by rw [hverdict]

theorem retained_tally (f : NoiseRule) (terms : Vocabulary) :
    (tally f terms.toList).retained = (ofVocabulary f terms).terms.size := by
  refine (Vocabulary.size_eq_countP fun term => ?_).symm
  rw [mem_ofVocabulary_iff, ← NoiseRule.verdict_eq_retained_iff, beq_iff_eq]

end Filtered

namespace ByCasing

theorem size_ofVocabulary (terms : Vocabulary) : (ofVocabulary terms).size = terms.size := by
  have hpart (casing : Casing) : ((ofVocabulary terms).get casing).size =
      terms.toList.countP (Casing.ofTerm · == casing) := by
    refine Vocabulary.size_eq_countP fun term => ?_
    rw [mem_get_ofVocabulary_iff, beq_iff_eq]
  have hupper (term : String) :
      (Casing.ofTerm term == .upper) = decide ¬(Casing.ofTerm term == .lower) = true := by
    cases Casing.ofTerm term <;> rfl
  have hlower := hpart .lower
  have hrest := hpart .upper
  simp only [hupper] at hrest
  rw [size, ← Std.ExtTreeSet.length_toList (t := terms),
    List.length_eq_countP_add_countP (Casing.ofTerm · == .lower), ← hlower, ← hrest]
  rfl

end ByCasing

/-- The counters of a run add up, whatever they were before. -/
theorem counts_conserve_terms (delimiter : Char) (noise : NoiseRule) (records : List String)
    (before : RunCounts) :
    let g := Generation.ofRecords delimiter noise records
    let counts := g.counts before
    counts.tokens.records = records.length ∧
    counts.tokens.tokens =
      (records.map fun record => 1 + record.toList.count delimiter).sum ∧
    counts.tokens.tokens = counts.uniqueTerms + counts.tokens.duplicates ∧
    counts.uniqueTerms = counts.filter.empty + counts.filter.numeric + counts.filter.retained ∧
    counts.filter.retained = g.lists.terms.size ∧
    counts.filter.retained = counts.lowerTerms + counts.upperTerms ∧
    counts.filter.retained = g.lists.byCasing.size ∧
    counts.filter.empty = (if ∃ record ∈ records, IsPiece delimiter record "" then 1 else 0) ∧
    counts.corpusBytes = before.corpusBytes ∧
    ∀ other : RunCounts, { g.counts other with corpusBytes := counts.corpusBytes } = counts := by
  intro g counts
  have hfilter : counts.filter = Filtered.tally noise g.tokens.terms.toList :=
    Filtered.counts_ofVocabulary noise g.tokens.terms
  have hretained : counts.filter.retained = g.lists.terms.size := by
    rw [hfilter]
    exact Filtered.retained_tally noise g.tokens.terms
  have hparts : counts.filter.retained = g.lists.byCasing.size := by
    rw [hretained]
    exact (ByCasing.size_ofVocabulary g.lists.terms).symm
  refine ⟨?records, ?tokens, ?repeats, ?verdicts, hretained, hparts, hparts, ?empty, rfl,
    fun _ => rfl⟩
  case records => exact Tokens.records_tokenize delimiter records
  case tokens => exact Tokens.tokens_tokenize delimiter records
  case repeats => exact Tokens.isBalanced_tokenize delimiter records
  case verdicts =>
    rw [hfilter, Filtered.sum_tally]
    exact Std.ExtTreeSet.length_toList.symm
  case empty =>
    rw [hfilter, Filtered.empty_tally, (Vocabulary.nodup_toList _).count]
    exact if_congr (Std.ExtTreeSet.mem_toList.trans (mem_tokenize_iff delimiter records "")) rfl rfl

end Lexicon
