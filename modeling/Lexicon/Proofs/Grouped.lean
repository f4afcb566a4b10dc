import Lexicon.Number.Grouped
import Lexicon.Proofs.Digits
import Mathlib.Data.String.Basic

/-! Counts grouped by thousands. Commas are placed while the digits are gone through from the left,
and still part them into threes from the right. -/

namespace Lexicon

structure DigitGroups where
  first : List Char
  others : List (List Char)
  first_pos : 1 ≤ first.length
  first_le : first.length ≤ 3
  length_of_mem : ∀ group ∈ others, group.length = 3
  isDigit_of_mem : ∀ c ∈ first ++ others.flatten, c.isDigit = true

namespace DigitGroups

def digits (g : DigitGroups) : List Char := g.first ++ g.others.flatten

def text (g : DigitGroups) : String :=
  String.ofList (g.first ++ g.others.flatMap fun group => ',' :: group)

end DigitGroups

def withoutCommas (text : String) : String := String.ofList (text.toList.filter (· ≠ ','))

theorem groupDigits_cons_of_ne {c : Char} {ds : List Char} (h : ds.length % 3 ≠ 0) :
    groupDigits (c :: ds) = c :: groupDigits ds := by
  cases ds with
  | nil => simp at h
  | cons d ds =>
    rw [List.length_cons] at h
    rw [groupDigits, if_neg h]

theorem groupDigits_cons_of_eq {c : Char} {ds : List Char} (hne : ds ≠ [])
    (h : ds.length % 3 = 0) : groupDigits (c :: ds) = c :: ',' :: groupDigits ds := by
  cases ds with
  | nil => contradiction
  | cons d ds =>
    rw [List.length_cons] at h
    rw [groupDigits, if_pos h]

/-- In front of whole groups, no more than three digits are kept together. -/
theorem groupDigits_append {first rest : List Char} (hpos : 1 ≤ first.length)
    (hle : first.length ≤ 3) (hne : rest ≠ []) (hrest : rest.length % 3 = 0) :
    groupDigits (first ++ rest) = first ++ ',' :: groupDigits rest := by
  induction first with
  | nil => contradiction
  | cons c first ih =>
    rw [List.length_cons] at hle
    cases first with
    | nil => exact groupDigits_cons_of_eq hne hrest
    | cons d ds =>
      have hlength : ((d :: ds) ++ rest).length % 3 ≠ 0 := by
        rw [List.length_append, List.length_cons] at *
        omega
      rw [List.cons_append, groupDigits_cons_of_ne hlength, ih (by simp) (by omega)]
      rfl

theorem groupDigits_of_length_le {ds : List Char} (h : ds.length ≤ 3) : groupDigits ds = ds := by
  induction ds with
  | nil => rfl
  | cons c ds ih =>
    rw [List.length_cons] at h
    cases ds with
    | nil => rfl
    | cons d ds =>
      have hlength : (d :: ds).length % 3 ≠ 0 := by
        rw [List.length_cons] at *
        omega
      rw [groupDigits_cons_of_ne hlength, ih (by omega)]

theorem length_flatten_mod_three {groups : List (List Char)}
    (h : ∀ group ∈ groups, group.length = 3) : groups.flatten.length % 3 = 0 := by
  induction groups with
  | nil => rfl
  | cons group groups ih =>
    obtain ⟨hgroup, hrest⟩ := List.forall_mem_cons.mp h
    rw [List.flatten_cons, List.length_append, hgroup]
    have hmod := ih hrest
    omega

theorem groupDigits_flatten {first : List Char} {others : List (List Char)}
    (hpos : 1 ≤ first.length) (hle : first.length ≤ 3)
    (hothers : ∀ group ∈ others, group.length = 3) :
    groupDigits (first ++ others.flatten) = first ++ others.flatMap fun group => ',' :: group := by
  induction others generalizing first with
  | nil => simpa using groupDigits_of_length_le hle
  | cons group others ih =>
    obtain ⟨hgroup, hrest⟩ := List.forall_mem_cons.mp hothers
    have hmod := length_flatten_mod_three hothers
    have hne : (group :: others).flatten ≠ [] := by
      intro hnil
      rw [List.flatten_cons, List.append_eq_nil_iff] at hnil
      rw [hnil.1] at hgroup
      contradiction
    rw [groupDigits_append hpos hle hne hmod, List.flatten_cons, ih (by omega) hgroup.le hrest,
      List.flatMap_cons]
    rfl

theorem filter_of_isDigit {ds : List Char} (h : ∀ c ∈ ds, c.isDigit = true) :
    ds.filter (· ≠ ',') = ds := by
  rw [List.filter_eq_self]
  intro c hc
  have hdigit := h c hc
  rw [decide_eq_true_eq]
  rintro rfl
  contradiction

theorem filter_flatMap_groups {groups : List (List Char)}
    (h : ∀ c ∈ groups.flatten, c.isDigit = true) :
    (groups.flatMap fun group => ',' :: group).filter (· ≠ ',') = groups.flatten := by
  induction groups with
  | nil => rfl
  | cons group groups ih =>
    rw [List.flatten_cons] at h ⊢
    obtain ⟨hgroup, hrest⟩ := List.forall_mem_append.mp h
    rw [List.flatMap_cons, List.filter_append, List.filter_cons_of_neg (by simp),
      filter_of_isDigit hgroup, ih hrest]

namespace DigitGroups

theorem text_eq (g : DigitGroups) : g.text = String.ofList (groupDigits g.digits) := by
  rw [text, digits, groupDigits_flatten g.first_pos g.first_le g.length_of_mem]

theorem withoutCommas_text (g : DigitGroups) : withoutCommas g.text = String.ofList g.digits := by
  obtain ⟨hfirst, hothers⟩ := List.forall_mem_append.mp g.isDigit_of_mem
  rw [withoutCommas, text, String.toList_ofList, List.filter_append, filter_of_isDigit hfirst,
    filter_flatMap_groups hothers, digits]

/-- Any digits can be put in groups. A digit in front opens a group of its own where the first group
is full. -/
theorem exists_of_digits {ds : List Char} (hne : ds ≠ []) (hds : ∀ c ∈ ds, c.isDigit = true) :
    ∃ g : DigitGroups, g.digits = ds := by
  induction ds with
  | nil => contradiction
  | cons c ds ih =>
    obtain ⟨hc, hrest⟩ := List.forall_mem_cons.mp hds
    by_cases hnil : ds = []
    · subst hnil
      exact ⟨⟨[c], [], by simp, by simp, by simp, by simpa using hc⟩, rfl⟩
    · obtain ⟨g, rfl⟩ := ih hnil hrest
      by_cases hfull : g.first.length = 3
      · have hothers : ∀ group ∈ g.first :: g.others, group.length = 3 :=
          List.forall_mem_cons.mpr ⟨hfull, g.length_of_mem⟩
        exact ⟨⟨[c], g.first :: g.others, by simp, by simp, hothers, hds⟩, rfl⟩
      · have hle : (c :: g.first).length ≤ 3 := by
          have hfirst := g.first_le
          rw [List.length_cons]
          omega
        exact ⟨⟨c :: g.first, g.others, by simp, hle, g.length_of_mem, hds⟩, rfl⟩

end DigitGroups

theorem exists_groupedText_eq (n : Nat) :
    ∃ g : DigitGroups, g.text = groupedText n ∧ g.digits = Nat.toDigits 10 n := by
  have hne : Nat.toDigits 10 n ≠ [] := List.length_pos_iff.mp Nat.length_toDigits_pos
  obtain ⟨g, hg⟩ := DigitGroups.exists_of_digits hne isDigit_of_mem_digits
  exact ⟨g, by rw [groupedText, ← hg, g.text_eq], hg⟩

theorem withoutCommas_groupedText (n : Nat) : withoutCommas (groupedText n) = toString n := by
  obtain ⟨g, htext, hdigits⟩ := exists_groupedText_eq n
  rw [← htext, g.withoutCommas_text, hdigits, Nat.toString_eq_ofList_toDigits]

/-- The text of a count is the one text in groups of three that has its digits. So no two counts
have the same text. -/
theorem grouped_by_thousands :
    (∀ n text, groupedText n = text ↔
      withoutCommas text = toString n ∧ ∃ g : DigitGroups, g.text = text) ∧
    Function.Injective groupedText := by
  constructor
  · intro n text
    constructor
    · rintro rfl
      obtain ⟨g, htext, -⟩ := exists_groupedText_eq n
      exact ⟨withoutCommas_groupedText n, g, htext⟩
    · rintro ⟨hdigits, g, rfl⟩
      rw [g.withoutCommas_text, Nat.toString_eq_ofList_toDigits, String.ofList_inj] at hdigits
      rw [groupedText, ← hdigits, g.text_eq]
  · intro n m h
    have hdigits : Nat.toDigits 10 n = Nat.toDigits 10 m := by
      rw [← String.ofList_inj, ← Nat.toString_eq_ofList_toDigits, ← Nat.toString_eq_ofList_toDigits,
        ← withoutCommas_groupedText, h, withoutCommas_groupedText]
    exact digits_inj hdigits

/-- Only the groups behind the first begin with zeros. -/
example : groupedText 1002030 = "1,002,030" := by decide

end Lexicon
