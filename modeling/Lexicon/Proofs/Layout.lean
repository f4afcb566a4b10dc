import Lexicon.Proofs.Record
import Mathlib.Data.List.Chain

/-! A text is its records with the line breaks between them. It can be laid out in one way only, if
a carriage return and a line feed with nothing between them are one break and not two. -/

namespace Lexicon

/-- The first record of a text, and the others with the break in front of each. -/
structure Layout where
  first : String
  rest : List (LineBreak × String) := []
  deriving Repr, DecidableEq

namespace Layout

def text (l : Layout) : String :=
  l.first ++ String.join (l.rest.map fun (lineBreak, record) => lineBreak.text ++ record)

def records (l : Layout) : List String := l.first :: l.rest.map Prod.snd

/-- No record holds a part of a break, and no two breaks in a row are the two halves of a pair. -/
structure IsProper (l : Layout) : Prop where
  unbroken : ∀ record ∈ l.records, '\n' ∉ record.toList ∧ '\r' ∉ record.toList
  unpaired : l.rest.IsChain fun (before, record) (after, _) =>
    ¬(before = .carriage ∧ record = "" ∧ after = .feed)

theorem text_cons (first record : String) (lineBreak : LineBreak)
    (rest : List (LineBreak × String)) :
    text ⟨first, (lineBreak, record) :: rest⟩ =
      first ++ (lineBreak.text ++ text ⟨record, rest⟩) := by
  simp [text, String.append_assoc]

theorem toList_text_behind (lineBreak : LineBreak) (l : Layout) :
    (text ⟨"", (lineBreak, l.first) :: l.rest⟩).toList =
      lineBreak.text.toList ++ l.text.toList := by
  rw [text_cons, String.empty_append, String.toList_append]

theorem IsProper.tail {first record : String} {lineBreak : LineBreak}
    {rest : List (LineBreak × String)} (h : IsProper ⟨first, (lineBreak, record) :: rest⟩) :
    IsProper ⟨record, rest⟩ where
  unbroken other hother := h.unbroken other (List.mem_cons_of_mem first hother)
  unpaired := h.unpaired.tail

/-- A line feed at the start of a text is its first break. -/
theorem IsProper.exists_of_head? {l : Layout} (h : l.IsProper)
    (hhead : l.text.toList.head? = some '\n') : ∃ record rest,
      l = ⟨"", (.feed, record) :: rest⟩ := by
  obtain ⟨first, rest⟩ := l
  have hfirst : first = "" := by
    by_contra hne
    obtain ⟨c, cs, hcs⟩ := List.exists_cons_of_ne_nil (mt String.toList_eq_nil_iff.mp hne)
    obtain rfl : c = '\n' := by simpa [text, hcs] using hhead
    exact (h.unbroken first List.mem_cons_self).1 (by simp [hcs])
  subst hfirst
  cases rest with
  | nil => simp [text] at hhead
  | cons line rest =>
    obtain ⟨lineBreak, record⟩ := line
    rw [text_cons] at hhead
    cases lineBreak with
    | feed => exact ⟨record, rest, rfl⟩
    | carriage => simp [LineBreak.text] at hhead
    | pair => simp [LineBreak.text] at hhead

/-- A carriage return that ends a record on its own is not followed by a line feed. -/
theorem IsProper.head?_ne {first record : String} {lineBreak : LineBreak}
    {rest : List (LineBreak × String)} (h : IsProper ⟨first, (lineBreak, record) :: rest⟩)
    (hreturn : lineBreak = .carriage) : (text ⟨record, rest⟩).toList.head? ≠ some '\n' := by
  intro hhead
  obtain ⟨after, later, heq⟩ := h.tail.exists_of_head? hhead
  obtain ⟨rfl, rfl⟩ := Layout.mk.inj heq
  exact (List.isChain_cons_cons.mp h.unpaired).1 ⟨hreturn, rfl, rfl⟩

theorem linesOf_lineBreak {lineBreak : LineBreak} {cs : List Char}
    (h : lineBreak = .carriage → cs.head? ≠ some '\n') :
    linesOf (lineBreak.text.toList ++ cs) = [] :: linesOf cs := by
  cases lineBreak with
  | feed => exact linesOf_break (.inl rfl) fun hreturn => absurd hreturn (by decide)
  | carriage => exact linesOf_break (.inr rfl) fun _ => h rfl
  | pair => exact linesOf_pair cs

/-- The records of a text are those that it is laid out in. The induction is on the records behind
the first. -/
theorem IsProper.recordsOf_text {l : Layout} (h : l.IsProper) : recordsOf l.text = l.records := by
  obtain ⟨first, rest⟩ := l
  induction rest generalizing first with
  | nil =>
    have hfirst := linesOf_append (h.unbroken first List.mem_cons_self) []
    rw [List.append_nil] at hfirst
    simp [recordsOf_eq_map, text, records, hfirst]
  | cons line rest ih =>
    obtain ⟨lineBreak, record⟩ := line
    have hrest := ih record h.tail
    rw [recordsOf_eq_map] at hrest
    rw [recordsOf_eq_map, text_cons, String.toList_append, String.toList_append,
      linesOf_append (h.unbroken first List.mem_cons_self), linesOf_lineBreak h.head?_ne]
    simp [hrest, records]

/-- A record and a break can be put in front of a layout, unless they pair up with its own. -/
theorem IsProper.cons {l : Layout} (h : l.IsProper) {first : String} {lineBreak : LineBreak}
    (hfirst : '\n' ∉ first.toList ∧ '\r' ∉ first.toList)
    (hhead : lineBreak = .carriage → l.text.toList.head? ≠ some '\n') :
    IsProper ⟨first, (lineBreak, l.first) :: l.rest⟩ where
  unbroken := List.forall_mem_cons.mpr ⟨hfirst, h.unbroken⟩
  unpaired := by
    refine h.unpaired.cons ?_
    rintro ⟨after, record⟩ hafter ⟨hreturn, hempty, rfl⟩
    obtain ⟨rest, hrest⟩ := List.head?_eq_some_iff.mp hafter
    apply hhead hreturn
    simp [text, hempty, hrest, LineBreak.text]

/-- Every text can be laid out. The induction is on how the text begins. -/
theorem exists_proper (cs : List Char) : ∃ l : Layout, l.IsProper ∧ l.text.toList = cs := by
  induction cs using linesOf_induction with
  | nil => exact ⟨⟨"", []⟩, ⟨by simp [records], .nil⟩, rfl⟩
  | pair cs ih =>
    obtain ⟨l, hproper, rfl⟩ := ih
    refine ⟨⟨"", (.pair, l.first) :: l.rest⟩, hproper.cons (by simp) (by simp), ?_⟩
    exact toList_text_behind .pair l
  | single c cs hc hpair ih =>
    obtain ⟨l, hproper, rfl⟩ := ih
    rcases hc with rfl | rfl
    · refine ⟨⟨"", (.feed, l.first) :: l.rest⟩, hproper.cons (by simp) (by simp), ?_⟩
      exact toList_text_behind .feed l
    · refine ⟨⟨"", (.carriage, l.first) :: l.rest⟩, hproper.cons (by simp) fun _ => hpair rfl, ?_⟩
      exact toList_text_behind .carriage l
  | other c cs hn hr ih =>
    obtain ⟨⟨first, rest⟩, hproper, rfl⟩ := ih
    refine ⟨⟨String.ofList (c :: first.toList), rest⟩, ⟨?_, hproper.unpaired⟩, by simp [text]⟩
    obtain ⟨hfirst, hrest⟩ := List.forall_mem_cons.mp hproper.unbroken
    refine List.forall_mem_cons.mpr ⟨?_, hrest⟩
    simpa [hn.symm, hr.symm] using hfirst

/-- A break is told from another by the text it begins. -/
theorem lineBreak_append_inj {lineBreak other : LineBreak} {cs ds : List Char}
    (hcs : lineBreak = .carriage → cs.head? ≠ some '\n')
    (hds : other = .carriage → ds.head? ≠ some '\n')
    (h : lineBreak.text.toList ++ cs = other.text.toList ++ ds) : lineBreak = other ∧ cs = ds := by
  cases lineBreak <;> cases other <;> simp [LineBreak.text] at h hcs hds ⊢
  case carriage.pair => simp [h] at hcs
  case pair.carriage => simp [← h] at hds
  all_goals exact h

theorem IsProper.rest_eq {first : String} {rest rest' : List (LineBreak × String)}
    (h : IsProper ⟨first, rest⟩) (h' : IsProper ⟨first, rest'⟩)
    (htext : text ⟨first, rest⟩ = text ⟨first, rest'⟩)
    (hrecords : rest.map Prod.snd = rest'.map Prod.snd) : rest = rest' := by
  induction rest generalizing first rest' with
  | nil => exact (List.map_eq_nil_iff.mp hrecords.symm).symm
  | cons line rest ih =>
    obtain ⟨lineBreak, record⟩ := line
    cases rest' with
    | nil => cases hrecords
    | cons line' rest' =>
      obtain ⟨lineBreak', record'⟩ := line'
      obtain ⟨rfl, hrest⟩ := List.cons.inj hrecords
      rw [text_cons, text_cons] at htext
      have hbehind := congrArg String.toList htext
      simp only [String.toList_append, List.append_cancel_left_eq] at hbehind
      obtain ⟨rfl, htail⟩ := lineBreak_append_inj h.head?_ne h'.head?_ne hbehind
      rw [ih h.tail h'.tail (String.toList_injective htail) hrest]

theorem IsProper.eq_of_text_eq {l l' : Layout} (h : l.IsProper) (h' : l'.IsProper)
    (htext : l.text = l'.text) : l = l' := by
  have hrecords : l.records = l'.records := by
    rw [← h.recordsOf_text, htext, h'.recordsOf_text]
  obtain ⟨first, rest⟩ := l
  obtain ⟨first', rest'⟩ := l'
  obtain ⟨rfl, hrest⟩ := List.cons.inj hrecords
  rw [h.rest_eq h' htext hrest]

def separated (lineBreak : LineBreak) (first : String) (others : List String) : Layout :=
  ⟨first, others.map (lineBreak, ·)⟩

theorem text_separated (lineBreak : LineBreak) (first : String) (others : List String) :
    (separated lineBreak first others).text = lineBreak.text.intercalate (first :: others) := by
  induction others generalizing first with
  | nil => simp [separated, text]
  | cons record others ih =>
    rw [String.intercalate_cons_cons, ← ih, separated, List.map_cons, text_cons,
      String.append_assoc]
    rfl

theorem records_separated (lineBreak : LineBreak) (first : String) (others : List String) :
    (separated lineBreak first others).records = first :: others := by
  simp [separated, records, Function.comp_def]

theorem isProper_separated {lineBreak : LineBreak} {first : String} {others : List String}
    (h : ∀ record ∈ first :: others, '\n' ∉ record.toList ∧ '\r' ∉ record.toList) :
    (separated lineBreak first others).IsProper where
  unbroken := by rwa [records_separated]
  unpaired := by
    refine (List.isChain_map _).mpr (List.pairwise_of_forall fun _ _ => ?_).isChain
    rintro ⟨hreturn, -, hfeed⟩
    rw [hreturn] at hfeed
    cases hfeed

end Layout

theorem recordsOf_intercalate_lineBreak {records : List String} (lineBreak : LineBreak)
    (h : ∀ record ∈ records, '\n' ∉ record.toList ∧ '\r' ∉ record.toList) (hne : records ≠ []) :
    recordsOf (lineBreak.text.intercalate records) = records := by
  obtain ⟨first, others, rfl⟩ := List.exists_cons_of_ne_nil hne
  rw [← Layout.text_separated, (Layout.isProper_separated h).recordsOf_text,
    Layout.records_separated]

/-- The characters of a text with a pattern replaced wherever it is met on the way from left to
right. The pattern is not empty. -/
def replaceChars (pattern replacement : List Char) : List Char → List Char
  | [] => []
  | c :: cs =>
    if pattern.isPrefixOf (c :: cs) then
      replacement ++ replaceChars pattern replacement (cs.drop (pattern.length - 1))
    else c :: replaceChars pattern replacement cs
termination_by cs => cs.length
decreasing_by
  · simp only [List.length_drop, List.length_cons]
    omega
  · simp

section ReplaceChars
variable {pattern replacement : List Char} {c : Char} {cs : List Char}

theorem replaceChars_of_isPrefixOf (h : pattern.isPrefixOf (c :: cs) = true) :
    replaceChars pattern replacement (c :: cs) =
      replacement ++ replaceChars pattern replacement (cs.drop (pattern.length - 1)) := by
  rw [replaceChars, if_pos h]

theorem replaceChars_cons (h : pattern.isPrefixOf (c :: cs) = false) :
    replaceChars pattern replacement (c :: cs) = c :: replaceChars pattern replacement cs := by
  rw [replaceChars, h, if_neg Bool.false_ne_true]

end ReplaceChars

def replaceAll (pattern replacement text : String) : String :=
  String.ofList (replaceChars pattern.toList replacement.toList text.toList)

def unifyBreaks (cs : List Char) : List Char :=
  replaceChars ['\r'] ['\n'] (replaceChars ['\r', '\n'] ['\n'] cs)

theorem unifyBreaks_pair (cs : List Char) :
    unifyBreaks ('\r' :: '\n' :: cs) = '\n' :: unifyBreaks cs := by
  rw [unifyBreaks, replaceChars_of_isPrefixOf rfl, List.cons_append, replaceChars_cons rfl]
  rfl

theorem unifyBreaks_single {c : Char} {cs : List Char} (hc : c = '\n' ∨ c = '\r')
    (hpair : c = '\r' → cs.head? ≠ some '\n') : unifyBreaks (c :: cs) = '\n' :: unifyBreaks cs := by
  rcases hc with rfl | rfl
  · rw [unifyBreaks, replaceChars_cons rfl, replaceChars_cons rfl]
    rfl
  · have hstart : ['\r', '\n'].isPrefixOf ('\r' :: cs) = false := by
      cases cs with
      | nil => rfl
      | cons d cs =>
        have hd : '\n' ≠ d := fun hd => hpair rfl (congrArg some hd.symm)
        simp [List.isPrefixOf, hd]
    rw [unifyBreaks, replaceChars_cons hstart, replaceChars_of_isPrefixOf rfl]
    rfl

theorem unifyBreaks_other {c : Char} {cs : List Char} (hr : c ≠ '\r') :
    unifyBreaks (c :: cs) = c :: unifyBreaks cs := by
  have hstart (pattern ds : List Char) : ('\r' :: pattern).isPrefixOf (c :: ds) = false := by
    simp [List.isPrefixOf, hr.symm]
  rw [unifyBreaks, replaceChars_cons (hstart _ _), replaceChars_cons (hstart _ _)]
  rfl

theorem linesOf_eq_splitOn_unifyBreaks (cs : List Char) :
    linesOf cs = (unifyBreaks cs).splitOn '\n' := by
  induction cs using linesOf_induction with
  | nil => simp [unifyBreaks, replaceChars]
  | pair cs ih =>
    rw [linesOf_pair, unifyBreaks_pair, ih]
    simp [List.splitOn_cons_eq_if_modifyHead]
  | single c cs hc hpair ih =>
    rw [linesOf_break hc hpair, unifyBreaks_single hc hpair, ih]
    simp [List.splitOn_cons_eq_if_modifyHead]
  | other c cs hn hr ih =>
    rw [linesOf_cons hn hr, unifyBreaks_other hr, ih]
    simp [List.splitOn_cons_eq_if_modifyHead, hn]

theorem linesOf_ne_nil (cs : List Char) : linesOf cs ≠ [] := by
  rw [linesOf_eq_splitOn_unifyBreaks]
  exact List.splitOn_ne_nil '\n' _

/-- The records of a text are its characters in their order, but for those of its breaks. -/
theorem flatten_linesOf (cs : List Char) :
    (linesOf cs).flatten = cs.filter fun c => c ≠ '\n' ∧ c ≠ '\r' := by
  induction cs using linesOf_induction with
  | nil => rfl
  | pair cs ih => simpa [linesOf_pair] using ih
  | single c cs hc hpair ih =>
    rw [linesOf_break hc hpair, List.flatten_cons, ih]
    rcases hc with rfl | rfl <;> simp
  | other c cs hn hr ih =>
    rw [linesOf_cons hn hr, List.filter_cons_of_pos (by simp [hn, hr]), ← ih]
    obtain ⟨first, rest, hlines⟩ := List.exists_cons_of_ne_nil (linesOf_ne_nil cs)
    rw [hlines]
    rfl

/-- The records of a text are those of its one layout. They are what lies between the line feeds
once every break has been turned into one, so that nothing but breaks is missing from them, and
records without a break in them are found again behind breaks of any one kind. -/
theorem recordsOf_iff_layout (text : String) :
    (∃! l : Layout, l.IsProper ∧ l.text = text) ∧
    (∀ records, recordsOf text = records ↔
      ∃ l : Layout, l.IsProper ∧ l.text = text ∧ l.records = records) ∧
    recordsOf text =
      ((replaceAll "\r" "\n" (replaceAll "\r\n" "\n" text)).toList.splitOn '\n').map
        String.ofList ∧
    (recordsOf text).flatMap String.toList = text.toList.filter (fun c => c ≠ '\n' ∧ c ≠ '\r') ∧
    ∀ (records : List String) (lineBreak : LineBreak),
      (∀ record ∈ records, '\n' ∉ record.toList ∧ '\r' ∉ record.toList) →
      recordsOf (lineBreak.text.intercalate records) =
        if records = [] then [""] else records := by
  obtain ⟨l, hproper, htext⟩ := Layout.exists_proper text.toList
  have htext : l.text = text := String.toList_injective htext
  refine ⟨⟨l, ⟨hproper, htext⟩, ?unique⟩, ?records, ?replaced, ?kept, ?rejoined⟩
  case unique =>
    rintro other ⟨hother, hsame⟩
    exact hother.eq_of_text_eq hproper (hsame.trans htext.symm)
  case records =>
    intro records
    constructor
    · rintro rfl
      exact ⟨l, hproper, htext, by rw [← htext, hproper.recordsOf_text]⟩
    · rintro ⟨other, hother, rfl, rfl⟩
      exact hother.recordsOf_text
  case replaced =>
    rw [recordsOf_eq_map, linesOf_eq_splitOn_unifyBreaks, replaceAll, replaceAll]
    simp only [String.toList_ofList]
    rfl
  case kept =>
    rw [recordsOf_eq_map, List.flatMap_map, ← flatten_linesOf]
    simp
  case rejoined =>
    intro records lineBreak hunbroken
    split
    next hnil =>
      rw [hnil]
      rfl
    next hne => exact recordsOf_intercalate_lineBreak lineBreak hunbroken hne

/-- Carriage returns in a row end a line each, but for one that is half of a pair. -/
theorem returns_in_a_row :
    recordsOf "é\r\r\n\n" = ["é", "", "", ""] ∧
      recordsOf (LineBreak.pair.text.intercalate ["é", "", "b"]) = ["é", "", "b"] := by
  obtain ⟨-, hlayout, -⟩ := recordsOf_iff_layout "é\r\r\n\n"
  obtain ⟨-, -, -, -, hrejoined⟩ := recordsOf_iff_layout ""
  refine ⟨(hlayout _).mpr ⟨⟨"é", [(.carriage, ""), (.pair, ""), (.feed, "")]⟩, ⟨?_, ?_⟩, ?_, rfl⟩,
    hrejoined _ _ (by decide)⟩
  · decide
  · simp
  · decide

end Lexicon
