import Lexicon.Generation
import Lexicon.Proofs.Term
import Lexicon.Proofs.Wordlist
import Mathlib.Tactic.Tauto

/-! What becomes of the terms of some records. The wordlists hold the pieces that are neither empty
nor noise, each in one of two parts by its casing. -/

namespace Lexicon

theorem NoiseRule.verdict_eq_retained_iff (f : NoiseRule) (term : String) :
    f.verdict term = .retained ↔ term ≠ "" ∧ f.drops term = false := by
  unfold verdict
  split
  next h => simp [h]
  next h => cases hd : f.drops term <;> simp [h]

/-- A term as short as the length threshold has some length, and so is noise only if empty. -/
theorem NoiseRule.drops_eq_false_of_short {f : NoiseRule} {term : String} (hne : term ≠ "")
    (hlen : term.length ≤ f.lengthThreshold) : f.drops term = false := by
  have hpos : term.length ≠ 0 := by simpa using hne
  simp [drops, digitShare, hpos, Nat.not_lt.mpr hlen]

namespace Filtered

theorem mem_addTerm_iff (f : NoiseRule) (s : Filtered) (a term : String) :
    term ∈ (addTerm f s a).terms ↔ (a = term ∧ f.verdict a = .retained) ∨ term ∈ s.terms := by
  unfold addTerm
  cases f.verdict a with
  | empty => simp
  | numeric => simp
  | retained => simp

theorem mem_ofTerms_iff (f : NoiseRule) (terms : List String) (term : String) :
    term ∈ (ofTerms f terms).terms ↔ term ∈ terms ∧ term ≠ "" ∧ f.drops term = false := by
  have h := Vocabulary.mem_foldl_iff Filtered.terms (mem_addTerm_iff f) terms {} term
  rw [← NoiseRule.verdict_eq_retained_iff]
  unfold ofTerms
  rw [h]
  simp

theorem mem_ofVocabulary_iff (f : NoiseRule) (terms : Vocabulary) (term : String) :
    term ∈ (ofVocabulary f terms).terms ↔
      term ∈ terms ∧ term ≠ "" ∧ f.drops term = false := by
  rw [ofVocabulary, mem_ofTerms_iff, Std.ExtTreeSet.mem_toList]

end Filtered

theorem Casing.ofTerm_eq_lower_iff (term : String) :
    Casing.ofTerm term = .lower ↔ toUppercase term ≠ term := by
  simp [Casing.ofTerm, isUppercase]

theorem Casing.ofTerm_eq_upper_iff (term : String) :
    Casing.ofTerm term = .upper ↔ toUppercase term = term := by
  simp [Casing.ofTerm, isUppercase]

namespace ByCasing

theorem mem_addTerm_iff (casing : Casing) (c : ByCasing) (a term : String) :
    term ∈ (addTerm c a).get casing ↔
      (a = term ∧ Casing.ofTerm a = casing) ∨ term ∈ c.get casing := by
  unfold addTerm
  cases Casing.ofTerm a <;> cases casing <;> simp [get]

theorem mem_get_ofTerms_iff (terms : List String) (casing : Casing) (term : String) :
    term ∈ (ofTerms terms).get casing ↔ term ∈ terms ∧ Casing.ofTerm term = casing := by
  have h := Vocabulary.mem_foldl_iff (fun c : ByCasing => c.get casing) (mem_addTerm_iff casing)
    terms {} term
  unfold ofTerms
  rw [h]
  cases casing <;> simp [get]

theorem mem_get_ofVocabulary_iff (terms : Vocabulary) (casing : Casing) (term : String) :
    term ∈ (ofVocabulary terms).get casing ↔ term ∈ terms ∧ Casing.ofTerm term = casing := by
  rw [ofVocabulary, mem_get_ofTerms_iff, Std.ExtTreeSet.mem_toList]

end ByCasing

theorem mem_terms_generate_iff (delimiter : Char) (noise : NoiseRule) (records : List String)
    (term : String) :
    term ∈ (generate delimiter noise records).terms ↔
      term ≠ "" ∧ (∃ record ∈ records, IsPiece delimiter record term) ∧
        noise.drops term = false := by
  have h : term ∈ (generate delimiter noise records).terms ↔
      term ∈ (tokenize delimiter records).terms ∧ term ≠ "" ∧ noise.drops term = false :=
    Filtered.mem_ofVocabulary_iff noise _ term
  rw [h, mem_tokenize_iff]
  tauto

theorem mem_byCasing_generate_iff (delimiter : Char) (noise : NoiseRule) (records : List String)
    (casing : Casing) (term : String) :
    term ∈ (generate delimiter noise records).byCasing.get casing ↔
      term ∈ (generate delimiter noise records).terms ∧ Casing.ofTerm term = casing :=
  ByCasing.mem_get_ofVocabulary_iff _ casing term

theorem mem_terms_of_mem_get {delimiter : Char} {noise : NoiseRule} {records : List String}
    {kind : ListKind} {term : String} (h : term ∈ (generate delimiter noise records).get kind) :
    term ∈ (generate delimiter noise records).terms := by
  cases kind with
  | terms => exact h
  | vars => exact ((mem_byCasing_generate_iff delimiter noise records .lower term).mp h).1
  | consts => exact ((mem_byCasing_generate_iff delimiter noise records .upper term).mp h).1

theorem mem_generate_iff_of_plain {delimiter : Char} {records : List String}
    (h : ∀ record ∈ records, delimiter ∉ record.toList) (noise : NoiseRule) (term : String) :
    term ∈ (generate delimiter noise records).terms ↔
      term ≠ "" ∧ term ∈ records ∧ noise.drops term = false := by
  have hpieces : (∃ record ∈ records, IsPiece delimiter record term) ↔ term ∈ records := by
    constructor
    · rintro ⟨record, hrecord, hpiece⟩
      rw [(isPiece_iff_of_plain (h record hrecord) term).mp hpiece]
      exact hrecord
    · intro hmem
      exact ⟨term, hmem, (isPiece_iff_of_plain (h term hmem) term).mpr rfl⟩
  rw [mem_terms_generate_iff, hpieces]

/-- The wordlists of some records hold exactly their pieces that are neither empty nor noise, each
in the part of its casing, and every list is written in strictly ascending order. So no piece is
lost that is not longer than the length threshold. -/
theorem generate_holds_pieces (delimiter : Char) (noise : NoiseRule) (records : List String) :
    let lists := generate delimiter noise records
    (∀ term, term ∈ lists.terms ↔
      term ≠ "" ∧ (∃ record ∈ records, IsPiece delimiter record term) ∧
        noise.drops term = false) ∧
    (∀ term, term ∈ lists.byCasing.lower ↔ term ∈ lists.terms ∧ toUppercase term ≠ term) ∧
    (∀ term, term ∈ lists.byCasing.upper ↔ term ∈ lists.terms ∧ toUppercase term = term) ∧
    (∀ kind, ∃! entries : List String, entries.Pairwise (· < ·) ∧
      (∀ term, term ∈ entries ↔ term ∈ lists.get kind) ∧
      lists.text kind = "\n".intercalate entries) ∧
    (∀ term, term ≠ "" → (∃ record ∈ records, IsPiece delimiter record term) →
      term.length ≤ noise.lengthThreshold →
        term ∈ lists.terms ∧ (term ∈ lists.byCasing.lower ↔ term ∉ lists.byCasing.upper)) := by
  intro lists
  have hterms (term : String) := mem_terms_generate_iff delimiter noise records term
  have hlower (term : String) : term ∈ lists.byCasing.lower ↔
      term ∈ lists.terms ∧ toUppercase term ≠ term := by
    rw [← Casing.ofTerm_eq_lower_iff]
    exact mem_byCasing_generate_iff delimiter noise records .lower term
  have hupper (term : String) : term ∈ lists.byCasing.upper ↔
      term ∈ lists.terms ∧ toUppercase term = term := by
    rw [← Casing.ofTerm_eq_upper_iff]
    exact mem_byCasing_generate_iff delimiter noise records .upper term
  refine ⟨hterms, hlower, hupper, ?_, ?_⟩
  · intro kind
    refine ⟨(lists.get kind).toList,
      ⟨Vocabulary.pairwise_toList _, fun _ => Std.ExtTreeSet.mem_toList, lists.text_eq kind⟩, ?_⟩
    rintro entries ⟨hasc, hmem, -⟩
    refine eq_of_ascending hasc (Vocabulary.pairwise_toList _) fun term => ?_
    rw [hmem, Std.ExtTreeSet.mem_toList]
  · intro term hne hpiece hlen
    have hmem : term ∈ lists.terms :=
      (hterms term).mpr ⟨hne, hpiece, NoiseRule.drops_eq_false_of_short hne hlen⟩
    refine ⟨hmem, ?_⟩
    rw [hlower, hupper]
    tauto

theorem short_piece_retained :
    "A1" ∈ (generate '_' {} ["x__A1"]).terms ∧
      ("A1" ∈ (generate '_' {} ["x__A1"]).byCasing.lower ↔
        "A1" ∉ (generate '_' {} ["x__A1"]).byCasing.upper) := by
  have hpiece : IsPiece '_' "x__A1" "A1" :=
    ⟨by decide, "x__", "", by decide, Or.inr (by decide), Or.inl rfl⟩
  exact (generate_holds_pieces '_' {} ["x__A1"]).2.2.2.2 "A1" (by decide)
    ⟨"x__A1", List.mem_cons_self, hpiece⟩ (by decide)

end Lexicon
