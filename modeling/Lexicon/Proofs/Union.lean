import Lexicon.Proofs.Generation
import Lexicon.Proofs.Record

/-! The wordlists of records put together are the unions of their wordlists. So neither the order
of records nor how often they come matters, nor in what order the members of a set are listed. -/

namespace Lexicon

def ListKind.Admits : ListKind → String → Prop
  | .terms, _ => True
  | .vars, term => Casing.ofTerm term = .lower
  | .consts, term => Casing.ofTerm term = .upper

theorem mem_get_generate_iff (delimiter : Char) (noise : NoiseRule) (records : List String)
    (kind : ListKind) (term : String) :
    term ∈ (generate delimiter noise records).get kind ↔
      (term ≠ "" ∧ (∃ record ∈ records, IsPiece delimiter record term) ∧
        noise.drops term = false) ∧ kind.Admits term := by
  rw [← mem_terms_generate_iff]
  cases kind with
  | terms => exact (and_iff_left trivial).symm
  | vars => exact mem_byCasing_generate_iff delimiter noise records .lower term
  | consts => exact mem_byCasing_generate_iff delimiter noise records .upper term

/-- Only the pieces of records that are not empty matter to a list. -/
theorem get_generate_congr {delimiter : Char} {noise : NoiseRule} {records others : List String}
    (h : ∀ record, record ≠ "" → (record ∈ records ↔ record ∈ others)) (kind : ListKind) :
    (generate delimiter noise records).get kind = (generate delimiter noise others).get kind := by
  refine Std.ExtTreeSet.ext_mem fun term => ?_
  rw [mem_get_generate_iff, mem_get_generate_iff]
  refine and_congr_left fun _ => and_congr_right fun hterm => and_congr_left fun _ => ?_
  refine exists_congr fun record => and_congr_left fun hpiece => h record ?_
  rintro rfl
  exact hterm ((isPiece_iff_of_plain (by simp) term).mp hpiece)

theorem get_generate_append (delimiter : Char) (noise : NoiseRule) (records others : List String)
    (kind : ListKind) :
    (generate delimiter noise (records ++ others)).get kind =
      (generate delimiter noise records).get kind ∪
        (generate delimiter noise others).get kind := by
  refine Std.ExtTreeSet.ext_mem fun term => ?_
  rw [Std.ExtTreeSet.mem_union_iff, mem_get_generate_iff, mem_get_generate_iff,
    mem_get_generate_iff]
  simp only [List.mem_append, or_and_right, exists_or, and_or_left]

theorem get_generate_join (delimiter : Char) (noise : NoiseRule) (a b : String)
    (lineBreak : LineBreak) (kind : ListKind) :
    (generate delimiter noise (recordsOf (a ++ lineBreak.text ++ b))).get kind =
      (generate delimiter noise (recordsOf a)).get kind ∪
        (generate delimiter noise (recordsOf b)).get kind := by
  rw [← get_generate_append]
  refine get_generate_congr (fun record hrecord => ?_) kind
  rw [mem_recordsOf_join_iff a b lineBreak hrecord, List.mem_append]

theorem ascending_congr {terms others : List String} (h : ∀ term, term ∈ terms ↔ term ∈ others) :
    ascending terms = ascending others :=
  eq_of_ascending (pairwise_ascending terms) (pairwise_ascending others) fun term => by
    rw [mem_ascending, mem_ascending, h]

theorem listText_congr {terms others : List String} (h : ∀ term, term ∈ terms ↔ term ∈ others) :
    listText terms = listText others := by
  rw [listText, listText, ascending_congr h]

/-- The wordlists made when the terms of the records, and then those that are kept, are gone
through in some order. -/
def Wordlists.ofListings (noise : NoiseRule) (terms kept : List String) : Wordlists :=
  ⟨(Filtered.ofTerms noise terms).terms, ByCasing.ofTerms kept⟩

theorem mem_get_ofListings_iff {noise : NoiseRule} {terms kept : List String}
    (h : kept.Perm (Filtered.ofTerms noise terms).terms.toList) (kind : ListKind)
    (term : String) :
    term ∈ (Wordlists.ofListings noise terms kept).get kind ↔
      (term ∈ terms ∧ term ≠ "" ∧ noise.drops term = false) ∧ kind.Admits term := by
  have hkept : term ∈ kept ↔ term ∈ terms ∧ term ≠ "" ∧ noise.drops term = false := by
    rw [h.mem_iff, Std.ExtTreeSet.mem_toList, Filtered.mem_ofTerms_iff]
  rw [← hkept]
  cases kind with
  | terms =>
    rw [hkept, ← Filtered.mem_ofTerms_iff]
    exact (and_iff_left trivial).symm
  | vars => exact ByCasing.mem_get_ofTerms_iff kept .lower term
  | consts => exact ByCasing.mem_get_ofTerms_iff kept .upper term

/-- Whatever order the sets are gone through in, the lists are the same. -/
theorem get_ofListings {delimiter : Char} {noise : NoiseRule} {records terms kept : List String}
    (hterms : terms.Perm (tokenize delimiter records).terms.toList)
    (hkept : kept.Perm (Filtered.ofTerms noise terms).terms.toList) (kind : ListKind) :
    (Wordlists.ofListings noise terms kept).get kind =
      (generate delimiter noise records).get kind := by
  refine Std.ExtTreeSet.ext_mem fun term => ?_
  rw [mem_get_ofListings_iff hkept, mem_get_generate_iff, hterms.mem_iff, Std.ExtTreeSet.mem_toList,
    mem_tokenize_iff]
  tauto

/-- Generation is a homomorphism of unions, on records and on texts with a line break between them.
Its texts depend neither on the order and the repetition of records nor on the order in which the
sets between its stages are gone through. -/
theorem generate_union_homomorphism (delimiter : Char) (noise : NoiseRule) :
    (∀ records others kind, (generate delimiter noise (records ++ others)).get kind =
      (generate delimiter noise records).get kind ∪ (generate delimiter noise others).get kind) ∧
    (∀ records others, (∀ record, record ∈ records ↔ record ∈ others) → ∀ kind,
      (generate delimiter noise records).text kind =
        (generate delimiter noise others).text kind) ∧
    (∀ records terms kept, terms.Perm (tokenize delimiter records).terms.toList →
      kept.Perm (Filtered.ofTerms noise terms).terms.toList →
      let lists := Wordlists.ofListings noise terms kept
      ∀ kind shown, shown.Perm (lists.get kind).toList →
        lists.get kind = (generate delimiter noise records).get kind ∧
          listText shown = (generate delimiter noise records).text kind) ∧
    (∀ a b (lineBreak : LineBreak) kind,
      (generate delimiter noise (recordsOf (a ++ lineBreak.text ++ b))).get kind =
        (generate delimiter noise (recordsOf a)).get kind ∪
          (generate delimiter noise (recordsOf b)).get kind) := by
  refine ⟨get_generate_append delimiter noise, ?_, ?_, get_generate_join delimiter noise⟩
  · intro records others h kind
    rw [Wordlists.text, get_generate_congr (fun record _ => h record) kind, Wordlists.text]
  · intro records terms kept hterms hkept lists kind shown hshown
    have hlist := get_ofListings hterms hkept kind
    refine ⟨hlist, ?_⟩
    rw [Wordlists.text, ← hlist]
    exact listText_congr fun term => hshown.mem_iff

theorem reordered_terms_agree :
    (generate '_' {} ["a_B", "1234"]).text .terms =
        (generate '_' {} ["1234", "a_B", "1234"]).text .terms ∧
      listText ["a", "B"] = (generate '_' {} ["a_B", "1234"]).text .terms := by
  have hrecords (record : String) :
      record ∈ ["a_B", "1234"] ↔ record ∈ ["1234", "a_B", "1234"] := by
    simp only [List.mem_cons, List.not_mem_nil, or_false]
    tauto
  have hterms : ["a", "1234", "B"].Perm (tokenize '_' ["a_B", "1234"]).terms.toList := by
    decide +kernel
  have hkept : ["a", "B"].Perm (Filtered.ofTerms {} ["a", "1234", "B"]).terms.toList := by
    decide +kernel
  have hshown : ["a", "B"].Perm
      ((Wordlists.ofListings {} ["a", "1234", "B"] ["a", "B"]).get .terms).toList := by
    decide +kernel
  obtain ⟨-, hrepeat, hlisting, -⟩ := generate_union_homomorphism '_' {}
  exact ⟨hrepeat _ _ hrecords .terms, (hlisting _ _ _ hterms hkept .terms _ hshown).2⟩

end Lexicon
