import Lexicon.Corpus.Record

/-! The lines of a text hold no line break, and texts with a break between them have the lines of
both. -/

namespace Lexicon

def linesOf (cs : List Char) : List (List Char) := linesFrom [] [] cs

theorem recordsOf_eq_map (text : String) :
    recordsOf text = (linesOf text.toList).map String.ofList := rfl

/-- The lines already found stand in front, and the first of the others completes the open line. -/
theorem linesFrom_eq (found : List (List Char)) (line cs : List Char) :
    linesFrom found line cs =
      found.reverse ++ (linesOf cs).modifyHead (line.reverse ++ ·) := by
  refine linesFrom.induct
    (motive := fun _ _ cs => ∀ found line, linesFrom found line cs =
      found.reverse ++ (linesOf cs).modifyHead (line.reverse ++ ·))
    ?nil ?pair ?single ?other found line cs found line
  case nil =>
    intro _ _ found line
    simp [linesOf, linesFrom]
  case pair =>
    intro _ _ cs ih found line
    rw [linesOf, linesFrom.eq_2, linesFrom.eq_2, ih, ih]
    simp
  case single =>
    intro _ _ c cs hpair hc ih found line
    rw [linesOf, linesFrom.eq_3 _ _ _ _ hpair, linesFrom.eq_3 _ _ _ _ hpair, if_pos hc, if_pos hc,
      ih, ih]
    simp
  case other =>
    intro _ _ c cs hpair hc ih found line
    rw [linesOf, linesFrom.eq_3 _ _ _ _ hpair, linesFrom.eq_3 _ _ _ _ hpair, if_neg hc, if_neg hc,
      ih, ih]
    cases linesOf cs <;> simp

theorem linesFrom_closed (found : List (List Char)) (cs : List Char) :
    linesFrom found [] cs = found.reverse ++ linesOf cs := by
  rw [linesFrom_eq]
  cases linesOf cs <;> simp

@[simp] theorem linesOf_nil : linesOf [] = [[]] := rfl

theorem linesOf_pair (cs : List Char) : linesOf ('\r' :: '\n' :: cs) = [] :: linesOf cs := by
  rw [linesOf, linesFrom, linesFrom_closed]
  simp

/-- A carriage return ends a line on its own unless a line feed follows it. -/
theorem linesOf_break {c : Char} {cs : List Char} (hc : c = '\n' ∨ c = '\r')
    (hpair : c = '\r' → cs.head? ≠ some '\n') : linesOf (c :: cs) = [] :: linesOf cs := by
  rw [linesOf, linesFrom.eq_3, if_pos (by simpa using hc), linesFrom_closed]
  · simp
  · rintro rest rfl rfl
    exact hpair rfl rfl

theorem linesOf_cons {c : Char} {cs : List Char} (hn : c ≠ '\n') (hr : c ≠ '\r') :
    linesOf (c :: cs) = (linesOf cs).modifyHead (c :: ·) := by
  rw [linesOf, linesFrom.eq_3, if_neg (by simp [hn, hr]), linesFrom_eq]
  · simp
  · intro _ h
    exact absurd h hr

theorem linesOf_append {front : List Char} (h : '\n' ∉ front ∧ '\r' ∉ front) (cs : List Char) :
    linesOf (front ++ cs) = (linesOf cs).modifyHead (front ++ ·) := by
  induction front with
  | nil => exact (congrFun List.modifyHead_id (linesOf cs)).symm
  | cons c front ih =>
    obtain ⟨⟨hn, hn'⟩, hr, hr'⟩ : ('\n' ≠ c ∧ '\n' ∉ front) ∧ '\r' ≠ c ∧ '\r' ∉ front := by
      simpa using h
    rw [List.cons_append, linesOf_cons hn.symm hr.symm, ih ⟨hn', hr'⟩, List.modifyHead_modifyHead]
    rfl

/-- Case analysis on how a text begins: with a pair of breaks, a single break, or neither. -/
theorem linesOf_induction {motive : List Char → Prop} (nil : motive [])
    (pair : ∀ cs, motive cs → motive ('\r' :: '\n' :: cs))
    (single : ∀ c cs, (c = '\n' ∨ c = '\r') → (c = '\r' → cs.head? ≠ some '\n') → motive cs →
      motive (c :: cs))
    (other : ∀ c cs, c ≠ '\n' → c ≠ '\r' → motive cs → motive (c :: cs)) (cs : List Char) :
    motive cs := by
  refine linesFrom.induct (motive := fun _ _ cs => motive cs) ?_ ?_ ?_ ?_ [] [] cs
  · intro _ _
    exact nil
  · intro _ _ cs ih
    exact pair cs ih
  · intro _ _ c cs hpair hc ih
    refine single c cs (by simpa using hc) ?_ ih
    intro hr hn
    obtain ⟨rest, hrest⟩ := List.head?_eq_some_iff.mp hn
    exact hpair rest hr hrest
  · intro _ _ c cs _ hc ih
    have h : c ≠ '\n' ∧ c ≠ '\r' := by simpa using hc
    exact other c cs h.1 h.2 ih

theorem no_break_of_mem_linesOf {cs line : List Char} (h : line ∈ linesOf cs) :
    '\n' ∉ line ∧ '\r' ∉ line := by
  induction cs using linesOf_induction generalizing line with
  | nil =>
    rw [linesOf_nil, List.mem_singleton] at h
    simp [h]
  | pair cs ih =>
    rw [linesOf_pair, List.mem_cons] at h
    rcases h with rfl | h
    · simp
    · exact ih h
  | single c cs hc hpair ih =>
    rw [linesOf_break hc hpair, List.mem_cons] at h
    rcases h with rfl | h
    · simp
    · exact ih h
  | other c cs hn hr ih =>
    rw [linesOf_cons hn hr] at h
    cases hl : linesOf cs with
    | nil => simp [hl] at h
    | cons first rest =>
      rw [hl, List.modifyHead_cons, List.mem_cons] at h
      rcases h with rfl | h
      · have hfirst : '\n' ∉ first ∧ '\r' ∉ first := ih (by simp [hl])
        simp [hn.symm, hr.symm, hfirst]
      · exact ih (by simp [hl, h])

theorem no_break_of_mem_recordsOf {text record : String} (h : record ∈ recordsOf text) :
    '\n' ∉ record.toList ∧ '\r' ∉ record.toList := by
  rw [recordsOf_eq_map, List.mem_map] at h
  obtain ⟨line, hline, rfl⟩ := h
  simpa using no_break_of_mem_linesOf hline

inductive LineBreak where
  | feed
  | carriage
  | pair
  deriving Repr, DecidableEq

def LineBreak.text : LineBreak → String
  | feed => "\n"
  | carriage => "\r"
  | pair => "\r\n"

/-- A text in front of a line break, and what follows it. The break ends the last line of the text,
unless it fuses with a break at the end of the text or at the start of what follows; then the empty
line between the two breaks is missing. -/
theorem exists_linesOf_join (a b : List Char) (lineBreak : LineBreak) :
    ∃ before after, linesOf (a ++ lineBreak.text.toList ++ b) = before ++ after ∧ before ≠ [] ∧
      (linesOf a = before ∨ linesOf a = before ++ [[]]) ∧
      (linesOf b = after ∨ linesOf b = [] :: after) := by
  induction a using linesOf_induction with
  | nil =>
    cases lineBreak with
    | feed =>
      have hfeed : linesOf ('\n' :: b) = [] :: linesOf b := linesOf_break (.inl rfl) (by simp)
      exact ⟨[[]], linesOf b, hfeed, by simp, .inl rfl, .inl rfl⟩
    | pair => exact ⟨[[]], linesOf b, linesOf_pair b, by simp, .inl rfl, .inl rfl⟩
    | carriage =>
      by_cases hb : b.head? = some '\n'
      · obtain ⟨rest, rfl⟩ := List.head?_eq_some_iff.mp hb
        refine ⟨[[]], linesOf rest, linesOf_pair rest, by simp, .inl rfl, .inr ?_⟩
        exact linesOf_break (.inl rfl) (by simp)
      · exact ⟨[[]], linesOf b, linesOf_break (.inr rfl) fun _ => hb, by simp, .inl rfl, .inl rfl⟩
  | pair a ih =>
    obtain ⟨before, after, hjoin, hne, ha, hb⟩ := ih
    refine ⟨[] :: before, after, ?_, by simp, ?_, hb⟩
    · simp only [List.cons_append] at hjoin ⊢
      rw [linesOf_pair, hjoin]
    · rw [linesOf_pair]
      simpa using ha
  | single c a hc hpair ih =>
    rw [linesOf_break hc hpair]
    by_cases hfuse : c = '\r' ∧ a = [] ∧ lineBreak = .feed
    · obtain ⟨rfl, rfl, rfl⟩ := hfuse
      exact ⟨[[]], linesOf b, linesOf_pair b, by simp, .inr rfl, .inl rfl⟩
    · obtain ⟨before, after, hjoin, hne, ha, hb⟩ := ih
      refine ⟨[] :: before, after, ?_, by simp, by simpa using ha, hb⟩
      simp only [List.cons_append] at hjoin ⊢
      rw [linesOf_break hc, hjoin]
      intro hr
      cases a with
      | cons d a => exact hpair hr
      | nil => cases lineBreak <;> simp_all [LineBreak.text]
  | other c a hn hr ih =>
    obtain ⟨before, after, hjoin, hne, ha, hb⟩ := ih
    obtain ⟨first, rest, rfl⟩ := List.exists_cons_of_ne_nil hne
    refine ⟨(c :: first) :: rest, after, ?_, by simp, ?_, hb⟩
    · simp only [List.cons_append] at hjoin ⊢
      rw [linesOf_cons hn hr, hjoin]
      rfl
    · rw [linesOf_cons hn hr]
      rcases ha with ha | ha
      · exact .inl (by rw [ha]; rfl)
      · exact .inr (by rw [ha]; rfl)

/-- Two texts with a line break between them have the records of both, save for empty ones. -/
theorem mem_recordsOf_join_iff (a b : String) (lineBreak : LineBreak) {record : String}
    (h : record ≠ "") :
    record ∈ recordsOf (a ++ lineBreak.text ++ b) ↔
      record ∈ recordsOf a ∨ record ∈ recordsOf b := by
  obtain ⟨before, after, hjoin, -, ha, hb⟩ := exists_linesOf_join a.toList b.toList lineBreak
  have hmem (text : String) : record ∈ recordsOf text ↔ record.toList ∈ linesOf text.toList := by
    rw [recordsOf_eq_map, List.mem_map]
    constructor
    · rintro ⟨line, hline, rfl⟩
      rwa [String.toList_ofList]
    · intro hline
      exact ⟨_, hline, String.ofList_toList⟩
  have hne : record.toList ≠ [] := by simpa using h
  have hleft : record.toList ∈ linesOf a.toList ↔ record.toList ∈ before := by
    rcases ha with ha | ha
    · rw [ha]
    · rw [ha, List.mem_append, List.mem_singleton, or_iff_left hne]
  have hright : record.toList ∈ linesOf b.toList ↔ record.toList ∈ after := by
    rcases hb with hb | hb
    · rw [hb]
    · rw [hb, List.mem_cons, or_iff_right hne]
  rw [hmem, hmem, hmem, String.toList_append, String.toList_append, hjoin, List.mem_append, hleft,
    hright]

end Lexicon
