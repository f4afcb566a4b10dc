import Lexicon.Wordlist
import Lexicon.Proofs.Vocabulary

/-! The text of a list is the ascending sequence of its members, one a line. -/

namespace Lexicon

theorem ListKind.mem_all (kind : ListKind) : kind ∈ ListKind.all := by
  cases kind <;> decide

theorem dropRepeats_cons (term : String) (terms : List String) :
    dropRepeats (term :: terms) =
      if (dropRepeats terms).head? = some term then dropRepeats terms
      else term :: dropRepeats terms := rfl

theorem mem_dropRepeats (terms : List String) (term : String) :
    term ∈ dropRepeats terms ↔ term ∈ terms := by
  induction terms with
  | nil => rfl
  | cons a terms ih =>
    rw [dropRepeats_cons, List.mem_cons, ← ih]
    split
    next h =>
      constructor
      · exact Or.inr
      · rintro (rfl | ht)
        · exact List.mem_of_mem_head? h
        · exact ht
    next => exact List.mem_cons

/-- Of a sorted list every repeat is dropped, since equal terms are neighbours. -/
theorem pairwise_dropRepeats {terms : List String} (h : terms.Pairwise (· ≤ ·)) :
    (dropRepeats terms).Pairwise (· < ·) := by
  induction terms with
  | nil => exact List.Pairwise.nil
  | cons a terms ih =>
    obtain ⟨ha, ht⟩ := List.pairwise_cons.mp h
    rw [dropRepeats_cons]
    split
    next => exact ih ht
    next hne =>
      refine List.pairwise_cons.mpr ⟨?_, ih ht⟩
      intro b hb
      have hab : a ≤ b := ha b ((mem_dropRepeats terms b).mp hb)
      rcases hab.lt_or_eq with hlt | rfl
      · exact hlt
      · -- A member equal to `a` would be the least one, and so the head.
        have hasc := ih ht
        cases hd : dropRepeats terms with
        | nil => simp [hd] at hb
        | cons c rest =>
          rw [hd] at hb hasc hne
          have hac : a ≤ c := ha c ((mem_dropRepeats terms c).mp (by simp [hd]))
          have hca : a ≠ c := by simpa [eq_comm] using hne
          have hrest : a ∈ rest := (List.mem_cons.mp hb).resolve_left hca
          exact absurd ((List.pairwise_cons.mp hasc).1 a hrest) hac.not_gt

theorem mem_ascending (terms : List String) (term : String) :
    term ∈ ascending terms ↔ term ∈ terms := by
  rw [ascending, mem_dropRepeats, List.mem_mergeSort]

theorem pairwise_ascending (terms : List String) : (ascending terms).Pairwise (· < ·) := by
  apply pairwise_dropRepeats
  have htrans : ∀ a b c : String, decide (a ≤ b) → decide (b ≤ c) → decide (a ≤ c) := by
    simpa using fun a b c => String.le_trans
  have htotal : ∀ a b : String, decide (a ≤ b) || decide (b ≤ a) := by
    simpa using String.le_total
  simpa using List.pairwise_mergeSort htrans htotal terms

theorem ascending_toList (set : Vocabulary) : ascending set.toList = set.toList :=
  eq_of_ascending (pairwise_ascending _) set.pairwise_toList (mem_ascending _)

namespace Wordlists

theorem eq_of_get_eq {lists others : Wordlists} (h : ∀ kind, lists.get kind = others.get kind) :
    lists = others := by
  obtain ⟨terms, lower, upper⟩ := lists
  obtain ⟨_, _, _⟩ := others
  obtain rfl : terms = _ := h .terms
  obtain rfl : lower = _ := h .vars
  obtain rfl : upper = _ := h .consts
  rfl

theorem text_eq (lists : Wordlists) (kind : ListKind) :
    lists.text kind = "\n".intercalate (lists.get kind).toList := by
  rw [text, listText, ascending_toList]

end Wordlists
end Lexicon
