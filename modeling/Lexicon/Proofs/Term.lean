import Lexicon.Term
import Lexicon.Proofs.Vocabulary

/-! Which terms are collected from records. -/

namespace Lexicon

/-- A piece of a record holds no delimiter and has one, or an end of the record, on either side. -/
def IsPiece (delimiter : Char) (record piece : String) : Prop :=
  delimiter ∉ piece.toList ∧ ∃ before after : String, record = before ++ piece ++ after ∧
    (before = "" ∨ before.toList.getLast? = some delimiter) ∧
    (after = "" ∨ after.toList.head? = some delimiter)

theorem mem_splitOn_of_bounded {delimiter : Char} {before piece after : List Char}
    (hp : delimiter ∉ piece) (hb : before = [] ∨ before.getLast? = some delimiter)
    (ha : after = [] ∨ after.head? = some delimiter) :
    piece ∈ (before ++ piece ++ after).splitOn delimiter := by
  have hrest : piece ∈ (piece ++ after).splitOn delimiter := by
    rcases ha with rfl | ha
    · simp [List.splitOn_eq_singleton hp]
    · obtain ⟨rest, rfl⟩ := List.head?_eq_some_iff.mp ha
      simp [List.splitOn_append_cons_self_of_not_mem hp]
  rcases hb with rfl | hb
  · exact hrest
  · obtain ⟨start, rfl⟩ := List.getLast?_eq_some_iff.mp hb
    have htext : start ++ [delimiter] ++ piece ++ after =
        start ++ delimiter :: (piece ++ after) := by simp
    rw [htext, List.splitOn_append_cons_self]
    exact List.mem_append_right _ hrest

/-- Each piece that is split off stands between two delimiters or ends of the text. The induction
is on the length of the text behind the first delimiter. -/
theorem bounded_of_mem_splitOn {delimiter : Char} {text piece : List Char}
    (h : piece ∈ text.splitOn delimiter) :
    delimiter ∉ piece ∧ ∃ before after, text = before ++ piece ++ after ∧
      (before = [] ∨ before.getLast? = some delimiter) ∧
      (after = [] ∨ after.head? = some delimiter) := by
  induction hn : text.length using Nat.strongRecOn generalizing text with
  | _ n ih =>
    by_cases hd : delimiter ∈ text
    · obtain ⟨first, rest, rfl, hfirst⟩ := List.eq_append_cons_of_mem hd
      rw [List.splitOn_append_cons_self_of_not_mem hfirst, List.mem_cons] at h
      rcases h with rfl | h
      · exact ⟨hfirst, [], delimiter :: rest, by simp, Or.inl rfl, Or.inr rfl⟩
      · have hlt : rest.length < n := by
          rw [List.length_append, List.length_cons] at hn
          omega
        obtain ⟨hp, before, after, hrest, hb, ha⟩ := ih rest.length hlt h rfl
        refine ⟨hp, first ++ delimiter :: before, after, by simp [hrest], Or.inr ?_, ha⟩
        rcases hb with rfl | hb
        · simp
        · simp [List.getLast?_cons, hb]
    · rw [List.splitOn_eq_singleton hd, List.mem_singleton] at h
      subst h
      exact ⟨hd, [], [], by simp, Or.inl rfl, Or.inl rfl⟩

theorem mem_pieces_iff (delimiter : Char) (record piece : String) :
    piece ∈ pieces delimiter record ↔ IsPiece delimiter record piece := by
  unfold pieces IsPiece
  rw [List.mem_map]
  constructor
  · rintro ⟨cs, hcs, rfl⟩
    obtain ⟨hp, before, after, htext, hb, ha⟩ := bounded_of_mem_splitOn hcs
    refine ⟨by simpa using hp, String.ofList before, String.ofList after, ?_, ?_, ?_⟩
    · apply String.toList_injective
      simpa using htext
    · simpa using hb
    · simpa using ha
  · rintro ⟨hp, before, after, rfl, hb, ha⟩
    refine ⟨piece.toList, ?_, String.ofList_toList⟩
    rw [String.toList_append, String.toList_append]
    apply mem_splitOn_of_bounded hp
    · simpa using hb
    · simpa using ha

instance (delimiter : Char) (record piece : String) : Decidable (IsPiece delimiter record piece) :=
  decidable_of_iff _ (mem_pieces_iff delimiter record piece)

theorem IsPiece.mem_of_mem {delimiter c : Char} {record piece : String}
    (h : IsPiece delimiter record piece) (hc : c ∈ piece.toList) : c ∈ record.toList := by
  obtain ⟨-, before, after, rfl, -, -⟩ := h
  rw [String.toList_append, String.toList_append]
  exact List.mem_append_left _ (List.mem_append_right _ hc)

/-- A record without a delimiter is its only piece. -/
theorem isPiece_iff_of_plain {delimiter : Char} {record : String} (h : delimiter ∉ record.toList)
    (piece : String) : IsPiece delimiter record piece ↔ piece = record := by
  rw [← mem_pieces_iff, pieces, List.splitOn_eq_singleton h]
  simp

namespace Tokens

theorem mem_addTerm_iff (t : Tokens) (a term : String) :
    term ∈ (t.addTerm a).terms ↔ a = term ∨ term ∈ t.terms := Vocabulary.mem_add_iff t.terms a term

theorem mem_addRecord_iff (delimiter : Char) (t : Tokens) (record term : String) :
    term ∈ (addRecord delimiter t record).terms ↔
      IsPiece delimiter record term ∨ term ∈ t.terms := by
  rw [addRecord, Vocabulary.mem_foldl_iff Tokens.terms mem_addTerm_iff]
  simp [mem_pieces_iff]

end Tokens

theorem mem_tokenize_iff (delimiter : Char) (records : List String) (term : String) :
    term ∈ (tokenize delimiter records).terms ↔
      ∃ record ∈ records, IsPiece delimiter record term := by
  rw [tokenize, Vocabulary.mem_foldl_iff Tokens.terms (Tokens.mem_addRecord_iff delimiter)]
  simp

end Lexicon
