import Lexicon.Config
import Lexicon.Proofs.Counts
import Lexicon.Proofs.DigitShare
import Lexicon.Proofs.Union

/-! What the thresholds of the noise rule do to the wordlists. Higher thresholds keep more terms,
and change nothing else. -/

namespace Lexicon

namespace NoiseRule

theorem fault?_eq_none_iff (f : NoiseRule) :
    f.fault? = none ↔
      Binary64.le (.zero false) f.ratioThreshold = true ∧
        Binary64.le f.ratioThreshold (.ofNat 1) = true := by
  simp [fault?, isSound]

theorem verdict_eq_numeric_iff (f : NoiseRule) (term : String) :
    f.verdict term = .numeric ↔ term ≠ "" ∧ f.drops term = true := by
  unfold verdict
  split
  next h => simp [h]
  next h => cases hd : f.drops term <;> simp [h]

/-- No sound threshold lies below a share of zero, not even a negative zero does. -/
theorem drops_eq_false_of_no_digit {f : NoiseRule} (hsound : f.fault? = none) {term : String}
    (hne : term ≠ "") (hdigits : digitCount term = 0) : f.drops term = false := by
  obtain ⟨hlow, -⟩ := (fault?_eq_none_iff f).mp hsound
  rw [← Bool.not_eq_true, drops_iff f hne, hdigits, Binary64.ofNat_zero_div (length_pos_of_ne hne)]
  rintro ⟨hlt, -⟩
  simp [Binary64.le, hlt] at hlow

theorem drops_eq_false_of_one {f : NoiseRule} (hone : f.ratioThreshold = .ofNat 1) {term : String}
    (hne : term ≠ "") : f.drops term = false := by
  rw [← Bool.not_eq_true, drops_iff f hne, hone,
    Binary64.one_not_lt_share (length_pos_of_ne hne) (digitCount_le term)]
  simp

variable {f g : NoiseRule}

theorem drops_of_drops (hratio : f.ratioThreshold.le g.ratioThreshold = true)
    (hlength : f.lengthThreshold ≤ g.lengthThreshold) {term : String} (hne : term ≠ "")
    (h : g.drops term = true) : f.drops term = true := by
  rw [drops_iff g hne] at h
  rw [drops_iff f hne]
  exact ⟨Binary64.lt_of_le hratio h.1, Nat.lt_of_le_of_lt hlength h.2⟩

end NoiseRule

section Thresholds
variable {f g : NoiseRule} (hratio : f.ratioThreshold.le g.ratioThreshold = true)
  (hlength : f.lengthThreshold ≤ g.lengthThreshold)
include hratio hlength

/-- What the lower thresholds keep is what they keep of what the higher ones keep. -/
theorem mem_get_of_thresholds_le (delimiter : Char) (records : List String) (kind : ListKind)
    (term : String) :
    term ∈ (generate delimiter f records).get kind ↔
      term ∈ (generate delimiter g records).get kind ∧ (!f.drops term) = true := by
  rw [mem_get_generate_iff, mem_get_generate_iff, Bool.not_eq_true']
  constructor
  · rintro ⟨⟨hne, hpiece, hkept⟩, hkind⟩
    have hkept' : g.drops term = false := by
      rw [← Bool.not_eq_true] at hkept ⊢
      exact mt (NoiseRule.drops_of_drops hratio hlength hne) hkept
    exact ⟨⟨⟨hne, hpiece, hkept'⟩, hkind⟩, hkept⟩
  · rintro ⟨⟨⟨hne, hpiece, -⟩, hkind⟩, hkept⟩
    exact ⟨⟨hne, hpiece, hkept⟩, hkind⟩

theorem sublist_of_thresholds_le (delimiter : Char) (records : List String) (kind : ListKind) :
    (ascending ((generate delimiter f records).get kind).toList).Sublist
      (ascending ((generate delimiter g records).get kind).toList) := by
  rw [ascending_toList, ascending_toList,
    Vocabulary.toList_eq_filter (mem_get_of_thresholds_le hratio hlength delimiter records kind)]
  exact List.filter_sublist

theorem numeric_of_thresholds_le (terms : List String) :
    (Filtered.tally g terms).numeric ≤ (Filtered.tally f terms).numeric := by
  apply List.countP_mono_left
  intro term _
  rw [beq_iff_eq, beq_iff_eq, NoiseRule.verdict_eq_numeric_iff, NoiseRule.verdict_eq_numeric_iff]
  rintro ⟨hne, hdropped⟩
  exact ⟨hne, NoiseRule.drops_of_drops hratio hlength hne hdropped⟩

end Thresholds

/-- A sound rule keeps all terms without digits, and one with the threshold one keeps all terms but
the empty one. Raising thresholds only adds to the lists: each keeps its entries in their order and
every term its casing, no more terms are counted as numeric, and the counts before that stay. -/
theorem thresholds_act_monotonically (delimiter : Char) (records : List String) :
    (∀ f : NoiseRule, f.fault? = none → ∀ term, term ≠ "" →
      (∃ record ∈ records, IsPiece delimiter record term) →
      digitCount term = 0 ∨ f.ratioThreshold = .ofNat 1 →
        term ∈ (generate delimiter f records).terms) ∧
    ∀ f g : NoiseRule, f.ratioThreshold.le g.ratioThreshold = true →
      f.lengthThreshold ≤ g.lengthThreshold →
      (∀ kind, (ascending ((generate delimiter f records).get kind).toList).Sublist
        (ascending ((generate delimiter g records).get kind).toList)) ∧
      (∀ casing term, term ∈ (generate delimiter f records).terms →
        term ∈ (generate delimiter g records).terms →
        (term ∈ (generate delimiter f records).byCasing.get casing ↔
          term ∈ (generate delimiter g records).byCasing.get casing)) ∧
      ∀ before,
        let counts := (Generation.ofRecords delimiter f records).counts before
        let others := (Generation.ofRecords delimiter g records).counts before
        counts.uniqueTerms = others.uniqueTerms ∧ counts.filter.empty = others.filter.empty ∧
          others.filter.numeric ≤ counts.filter.numeric := by
  constructor
  · intro f hsound term hne hpiece hkept
    rw [mem_terms_generate_iff]
    refine ⟨hne, hpiece, ?_⟩
    rcases hkept with hdigits | hone
    · exact NoiseRule.drops_eq_false_of_no_digit hsound hne hdigits
    · exact NoiseRule.drops_eq_false_of_one hone hne
  · intro f g hratio hlength
    refine ⟨sublist_of_thresholds_le hratio hlength delimiter records, ?_, ?_⟩
    · intro casing term hterm hterm'
      rw [mem_byCasing_generate_iff, mem_byCasing_generate_iff]
      exact and_congr_left fun _ => iff_of_true hterm hterm'
    · intro before counts others
      have hcounts (h : NoiseRule) :
          ((Generation.ofRecords delimiter h records).counts before).filter =
            Filtered.tally h (tokenize delimiter records).terms.toList :=
        Filtered.counts_ofVocabulary h _
      refine ⟨rfl, ?_, ?_⟩
      · rw [hcounts f, hcounts g, Filtered.empty_tally, Filtered.empty_tally]
      · rw [hcounts f, hcounts g]
        exact numeric_of_thresholds_le hratio hlength _

/-- Four digits in five characters are noise at the threshold of a half, but not at that of one. -/
theorem raised_threshold_keeps_more :
    "x" ∈ (generate '_' {} ["x_a1234"]).terms ∧
    "a1234" ∉ (generate '_' {} ["x_a1234"]).terms ∧
    "a1234" ∈ (generate '_' ⟨.ofNat 1, 3⟩ ["x_a1234"]).terms ∧
    (ascending ((generate '_' {} ["x_a1234"]).get .vars).toList).Sublist
      (ascending ((generate '_' ⟨.ofNat 1, 3⟩ ["x_a1234"]).get .vars).toList) := by
  obtain ⟨hkeeps, hraised⟩ := thresholds_act_monotonically '_' ["x_a1234"]
  have hpiece : IsPiece '_' "x_a1234" "x" :=
    ⟨by decide, "", "_a1234", by decide, Or.inl rfl, Or.inr (by decide)⟩
  have hpiece' : IsPiece '_' "x_a1234" "a1234" :=
    ⟨by decide, "x_", "", by decide, Or.inr (by decide), Or.inl rfl⟩
  have hsound : ({} : NoiseRule).fault? = none := by
    rw [NoiseRule.fault?_eq_none_iff]
    decide +kernel
  have hsound' : (NoiseRule.mk (.ofNat 1) 3).fault? = none := by
    rw [NoiseRule.fault?_eq_none_iff]
    decide +kernel
  have hratio : ({} : NoiseRule).ratioThreshold.le (NoiseRule.mk (.ofNat 1) 3).ratioThreshold =
      true := by
    decide +kernel
  have hlength : ({} : NoiseRule).lengthThreshold ≤ (NoiseRule.mk (.ofNat 1) 3).lengthThreshold :=
    Nat.le_refl 3
  have hone : (NoiseRule.mk (.ofNat 1) 3).ratioThreshold = .ofNat 1 := by
    dsimp only
  refine ⟨?_, by decide +kernel, ?_, (hraised {} ⟨.ofNat 1, 3⟩ hratio hlength).1 .vars⟩
  · exact hkeeps {} hsound "x" (by decide) ⟨_, List.mem_cons_self, hpiece⟩
      (.inl (by decide +kernel))
  · exact hkeeps ⟨.ofNat 1, 3⟩ hsound' "a1234" (by decide) ⟨_, List.mem_cons_self, hpiece'⟩
      (.inr hone)

end Lexicon
