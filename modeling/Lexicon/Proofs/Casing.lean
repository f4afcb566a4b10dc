import Lexicon.Proofs.Generation

/-! The casing of a term is a matter of its characters, one by one: no expansion of one character
can make up for a change to another. -/

namespace Lexicon

section Expansion
variable {α : Type} {f : α → List α} (hf : ∀ a, f a ≠ [])
include hf

theorem length_le_length_flatMap (as : List α) : as.length ≤ (as.flatMap f).length := by
  induction as with
  | nil => exact Nat.le_refl 0
  | cons a as ih =>
    have hpos := List.length_pos_iff.mpr (hf a)
    rw [List.flatMap_cons, List.length_append, List.length_cons]
    omega

/-- Where every element is replaced by at least one, the list comes out as it was only if each
element does: had one of them become longer, so would the whole. -/
theorem flatMap_eq_self_iff (as : List α) : as.flatMap f = as ↔ ∀ a ∈ as, f a = [a] := by
  induction as with
  | nil => simp
  | cons a as ih =>
    rw [List.flatMap_cons, List.forall_mem_cons, ← ih]
    constructor
    · intro h
      have hlength : (f a).length = [a].length := by
        have hpos := List.length_pos_iff.mpr (hf a)
        have hrest := length_le_length_flatMap hf as
        have hall := congrArg List.length h
        rw [List.length_append, List.length_cons] at hall
        rw [List.length_singleton]
        omega
      exact List.append_inj h hlength
    · rintro ⟨hfirst, hrest⟩
      rw [hfirst, hrest]
      rfl

end Expansion

theorem Uppercase.ofChar_ne_nil (c : Char) : ofChar c ≠ [] := by
  unfold ofChar
  split
  next us hlookup =>
    have htable : ∀ entry ∈ expansions, entry.2 ≠ [] := by decide
    obtain ⟨front, behind, hsplit, -⟩ := List.lookup_eq_some_iff.mp hlookup
    have hne := htable (c.toNat, us) (by simp [hsplit])
    simpa using hne
  next =>
    split <;> simp

namespace Casing

theorem ofTerm_eq_upper_iff_forall (term : String) :
    ofTerm term = .upper ↔ ∀ c ∈ term.toList, Uppercase.ofChar c = [c] := by
  rw [ofTerm_eq_upper_iff, ← flatMap_eq_self_iff Uppercase.ofChar_ne_nil, ← String.toList_inj]
  unfold toUppercase
  rw [String.toList_ofList]

theorem ofTerm_eq_lower_iff_exists (term : String) :
    ofTerm term = .lower ↔ ∃ c ∈ term.toList, Uppercase.ofChar c ≠ [c] := by
  have hcases : ofTerm term = .lower ↔ ¬ofTerm term = .upper := by
    cases ofTerm term <;> simp
  rw [hcases, ofTerm_eq_upper_iff_forall]
  simp only [not_forall, exists_prop, ne_eq]

end Casing

/-- A term is put among the variables for any one character that has an uppercase form of its own.
So only joined capitals are in capitals, and the order of characters does not matter. -/
theorem casing_is_local :
    (∀ term, Casing.ofTerm term = .lower ↔ ∃ c ∈ term.toList, Uppercase.ofChar c ≠ [c]) ∧
    (∀ c, Casing.ofTerm (String.singleton c) = .lower ↔ Uppercase.ofChar c ≠ [c]) ∧
    (∀ a b, Casing.ofTerm (a ++ b) = .upper ↔
      Casing.ofTerm a = .upper ∧ Casing.ofTerm b = .upper) ∧
    (∀ a b : String, a.toList.Perm b.toList → Casing.ofTerm a = Casing.ofTerm b) := by
  refine ⟨Casing.ofTerm_eq_lower_iff_exists, ?_, ?_, ?_⟩
  · intro c
    rw [Casing.ofTerm_eq_lower_iff_exists]
    simp
  · intro a b
    rw [Casing.ofTerm_eq_upper_iff_forall, Casing.ofTerm_eq_upper_iff_forall,
      Casing.ofTerm_eq_upper_iff_forall, String.toList_append]
    exact List.forall_mem_append
  · intro a b hperm
    have hupper : Casing.ofTerm a = .upper ↔ Casing.ofTerm b = .upper := by
      rw [Casing.ofTerm_eq_upper_iff_forall, Casing.ofTerm_eq_upper_iff_forall]
      exact forall_congr' fun c => imp_congr_left hperm.mem_iff
    cases ha : Casing.ofTerm a with
    | upper => exact (hupper.mp ha).symm
    | lower =>
      cases hb : Casing.ofTerm b with
      | lower => rfl
      | upper =>
        rw [hupper.mpr hb] at ha
        contradiction

/-- The one lowercase letter here has an uppercase form of two letters. -/
theorem reordered_letters_agree : Casing.ofTerm "STRAßE" = Casing.ofTerm "ßARTES" ∧
    Casing.ofTerm "STRAßE" = .lower := by
  obtain ⟨hlower, -, -, hperm⟩ := casing_is_local
  refine ⟨hperm "STRAßE" "ßARTES" (by decide), ?_⟩
  exact (hlower "STRAßE").mpr ⟨'ß', by decide, by decide⟩

end Lexicon
