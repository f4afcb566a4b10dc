import Lexicon.Vocabulary.Operation
import Lexicon.Proofs.Counts
import Lexicon.Proofs.TextOrder
import Mathlib.Data.Finset.Sort

/-! Histories of a vocabulary beside those of a finite set. Whatever was done to it, and in whatever
order its members were met, a vocabulary answers as the finite set does. -/

namespace Lexicon
namespace Vocabulary

/-- An order in which sets list their members. That of a hash table hangs on its seed, on the room
it was made with and on what it held before. -/
structure Listing where
  of : Vocabulary → List String
  perm : ∀ set, (of set).Perm set.toList

def Listing.ascending : Listing := ⟨fun set => set.toList, fun _ => List.Perm.refl _⟩

theorem mem_listing_iff (listing : Listing) (set : Vocabulary) (term : String) :
    term ∈ listing.of set ↔ term ∈ set := by
  rw [(listing.perm set).mem_iff, Std.ExtTreeSet.mem_toList]

structure Represents (set : Vocabulary) (s : Finset String) : Prop where
  contains_eq : ∀ term, set.contains term = decide (term ∈ s)
  size_eq : set.size = s.card
  isEmpty_iff : set.isEmpty = true ↔ set.size = 0
  nodup_listing : ∀ listing : Listing, (listing.of set).Nodup
  toFinset_listing : ∀ listing : Listing, (listing.of set).toFinset = s
  sorted_eq : ∀ (listing : Listing) (sorted : List String),
    sorted.Perm (listing.of set) → SortedByBytes sorted → sorted = s.sort
  toList_eq : set.toList = s.sort

namespace Represents
variable {set : Vocabulary} {s : Finset String}

theorem of_mem_iff (h : ∀ term, term ∈ set ↔ term ∈ s) : Represents set s := by
  have hlist : set.toList = s.sort := by
    refine eq_of_ascending set.pairwise_toList s.sortedLT_sort.pairwise fun term => ?_
    rw [Std.ExtTreeSet.mem_toList, Finset.mem_sort, h]
  constructor
  case contains_eq =>
    intro term
    rw [Bool.eq_iff_iff, decide_eq_true_eq, Std.ExtTreeSet.contains_iff_mem, h]
  case size_eq => rw [← Std.ExtTreeSet.length_toList, hlist, Finset.length_sort]
  case isEmpty_iff => rw [Std.ExtTreeSet.isEmpty_eq_size_beq_zero, beq_iff_eq]
  case nodup_listing =>
    intro listing
    exact (listing.perm set).nodup_iff.mpr set.nodup_toList
  case toFinset_listing =>
    intro listing
    ext term
    rw [List.mem_toFinset, mem_listing_iff, h]
  case sorted_eq =>
    intro listing sorted hperm hsorted
    rw [hsorted.eq_toList (hperm.trans (listing.perm set)), hlist]
  case toList_eq => exact hlist

theorem mem_iff (h : Represents set s) (term : String) : term ∈ set ↔ term ∈ s := by
  rw [← Std.ExtTreeSet.contains_iff_mem, h.contains_eq, decide_eq_true_eq]

end Represents

namespace Operation

def onFinset (s : Finset String) : Operation → Finset String
  | insert term => {term} ∪ s
  | contains _ => s
  | extend terms => s ∪ terms.toFinset
  | list => s
  | rebuild => s
  | tokenize delimiter records => (records.flatMap (pieces delimiter)).toFinset
  | filter noise => {term ∈ s | term ≠ "" ∧ noise.drops term = false}
  | keep casing => {term ∈ s | Casing.ofTerm term = casing}

/-- What an operation answers about a finite set. Only the order of a listing is left open. -/
def Answers (s : Finset String) : Operation → Answer → Prop
  | insert term, answer => answer = .truth (term ∉ s)
  | contains term, answer => answer = .truth (term ∈ s)
  | list, answer => ∃ members, answer = .terms members ∧ members.Nodup ∧ members.toFinset = s
  | _, answer => answer = .done

def applyListed (listing : Listing) (set : Vocabulary) : Operation → Vocabulary × Answer
  | list => (set, .terms (listing.of set))
  | rebuild => (.ofTerms (listing.of set), .done)
  | filter noise => ((Filtered.ofTerms noise (listing.of set)).terms, .done)
  | keep casing => ((ByCasing.ofTerms (listing.of set)).get casing, .done)
  | operation => apply set operation

/-- A history in which each operation meets the members in an order of its own. -/
def applyAllListed (set : Vocabulary) : List (Listing × Operation) → List (Vocabulary × Answer)
  | [] => []
  | (listing, operation) :: rest =>
    applyListed listing set operation ::
      applyAllListed (applyListed listing set operation).1 rest

theorem applyListed_ascending (set : Vocabulary) (operation : Operation) :
    applyListed .ascending set operation = apply set operation := by
  cases operation <;> rfl

theorem applyAllListed_ascending (set : Vocabulary) (operations : List Operation) :
    applyAllListed set (operations.map (Listing.ascending, ·)) = applyAll set operations := by
  induction operations generalizing set with
  | nil => rfl
  | cons operation rest ih =>
    rw [List.map_cons, applyAllListed, applyListed_ascending, ih]
    rfl

/-- After each operation a history shows the finite set that it should, and has answered as this
set does. -/
inductive Conforms : Finset String → List Operation → List (Vocabulary × Answer) → Prop
  | nil (s : Finset String) : Conforms s [] []
  | cons {s : Finset String} {operation : Operation} {set : Vocabulary} {answer : Answer}
      {rest : List Operation} {history : List (Vocabulary × Answer)}
      (represents : Represents set (operation.onFinset s)) (answers : operation.Answers s answer)
      (conforms : Conforms (operation.onFinset s) rest history) :
      Conforms s (operation :: rest) ((set, answer) :: history)

section Step
variable {set : Vocabulary} {s : Finset String} (h : Represents set s) (listing : Listing)
include h

theorem mem_applyListed_iff (operation : Operation) (term : String) :
    term ∈ (applyListed listing set operation).1 ↔ term ∈ operation.onFinset s := by
  have hmem := h.mem_iff term
  have hlisted := mem_listing_iff listing set term
  cases operation with
  | insert new =>
    change term ∈ (set.add new).2 ↔ term ∈ {new} ∪ s
    rw [mem_add_iff, hmem, Finset.mem_union, Finset.mem_singleton, eq_comm]
  | contains _ => exact hmem
  | extend terms =>
    change term ∈ set.extend terms ↔ term ∈ s ∪ terms.toFinset
    rw [mem_extend_iff, hmem, Finset.mem_union, List.mem_toFinset]
    exact or_comm
  | list => exact hmem
  | rebuild =>
    rw [applyListed, mem_ofTerms_iff, hlisted, hmem, onFinset]
  | tokenize delimiter records =>
    change term ∈ (Lexicon.tokenize delimiter records).terms ↔
      term ∈ (records.flatMap (pieces delimiter)).toFinset
    simp only [mem_tokenize_iff, List.mem_toFinset, List.mem_flatMap, mem_pieces_iff]
  | filter noise =>
    rw [applyListed, Filtered.mem_ofTerms_iff, hlisted, hmem, onFinset, Finset.mem_filter]
  | keep casing =>
    rw [applyListed, ByCasing.mem_get_ofTerms_iff, hlisted, hmem, onFinset, Finset.mem_filter]

theorem represents_applyListed (operation : Operation) :
    Represents (applyListed listing set operation).1 (operation.onFinset s) :=
  .of_mem_iff (mem_applyListed_iff h listing operation)

theorem answers_applyListed (operation : Operation) :
    operation.Answers s (applyListed listing set operation).2 := by
  cases operation with
  | insert term =>
    have hmem := h.mem_iff term
    unfold applyListed apply add Answers
    by_cases hterm : term ∈ s <;> simp [hmem, hterm]
  | contains term => exact congrArg Answer.truth (h.contains_eq term)
  | list => exact ⟨listing.of set, rfl, h.nodup_listing listing, h.toFinset_listing listing⟩
  | _ => rfl

end Step

theorem conforms_applyAllListed {set : Vocabulary} {s : Finset String} (h : Represents set s)
    (steps : List (Listing × Operation)) :
    Conforms s (steps.map Prod.snd) (applyAllListed set steps) := by
  induction steps generalizing set s with
  | nil => exact .nil s
  | cons step rest ih =>
    obtain ⟨listing, operation⟩ := step
    have hnext := represents_applyListed h listing operation
    exact .cons hnext (answers_applyListed h listing operation) (ih hnext)

/-- An empty vocabulary goes through any history as the empty set does, in whatever order its
members are met at each step. -/
theorem histories_refine_finite_sets :
    (∀ steps : List (Listing × Operation),
      Conforms ∅ (steps.map Prod.snd) (applyAllListed ∅ steps)) ∧
    ∀ operations : List Operation, Conforms ∅ operations (applyAll ∅ operations) := by
  have hempty : Represents ∅ ∅ := .of_mem_iff fun term => by simp
  constructor
  · exact conforms_applyAllListed hempty
  · intro operations
    have h := conforms_applyAllListed hempty (operations.map (Listing.ascending, ·))
    rw [applyAllListed_ascending, List.map_map] at h
    simpa using h

end Operation
end Vocabulary
end Lexicon
