import Lexicon.Vocabulary
import Mathlib.Data.List.Sort
import Mathlib.Data.String.Basic

/-! The members of vocabularies, and the order in which they are listed. -/

namespace Lexicon

/-- A list in strictly ascending order is determined by its members. -/
theorem eq_of_ascending {terms others : List String} (h : terms.Pairwise (· < ·))
    (h' : others.Pairwise (· < ·)) (hm : ∀ term, term ∈ terms ↔ term ∈ others) :
    terms = others := h.eq_of_mem_iff h' hm

namespace Vocabulary

theorem mem_add_iff (set : Vocabulary) (a term : String) :
    term ∈ (set.add a).2 ↔ a = term ∨ term ∈ set := by
  unfold add
  split
  next h =>
    constructor
    · exact Or.inr
    · rintro (rfl | ht)
      · exact h
      · exact ht
  next => simp

/-- A loop that only adds to a vocabulary ends with what its steps add to the one it starts from. -/
theorem mem_foldl_iff {σ α : Type} (terms : σ → Vocabulary) {step : σ → α → σ}
    {adds : α → String → Prop}
    (hstep : ∀ s a term, term ∈ terms (step s a) ↔ adds a term ∨ term ∈ terms s)
    (as : List α) (s : σ) (term : String) :
    term ∈ terms (as.foldl step s) ↔ (∃ a ∈ as, adds a term) ∨ term ∈ terms s := by
  induction as generalizing s with
  | nil => simp
  | cons a as ih =>
    rw [List.foldl_cons, ih, hstep, List.exists_mem_cons_iff, or_left_comm, or_assoc]

theorem mem_extend_iff (set : Vocabulary) (terms : List String) (term : String) :
    term ∈ set.extend terms ↔ term ∈ terms ∨ term ∈ set := by
  have hinsert (set : Vocabulary) (a term : String) :
      term ∈ set.insert a ↔ a = term ∨ term ∈ set := by
    simp
  have hfold := mem_foldl_iff (fun set => set) hinsert terms set term
  simpa [extend] using hfold

theorem mem_ofTerms_iff (terms : List String) (term : String) :
    term ∈ ofTerms terms ↔ term ∈ terms := by
  have hextend := mem_extend_iff ∅ terms term
  simpa [extend, ofTerms] using hextend

theorem pairwise_toList (set : Vocabulary) : set.toList.Pairwise (· < ·) := by
  have h : set.toList.Pairwise fun a b => compare a b = .lt := Std.ExtTreeSet.ordered_toList
  exact h.imp fun hab => compareOfLessAndEq_eq_lt.mp hab

end Vocabulary
end Lexicon
