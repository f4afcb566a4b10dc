import Lexicon.Proofs.ByteOrderMark
import Lexicon.Proofs.Generation
import Lexicon.Proofs.Layout

/-! The text of a list can be split into its entries again. Read as a corpus it has those entries as
its records, and yields the same lists, unless a byte order mark is seen in its first entry. -/

namespace Lexicon

/-- The entries of a list's text, one a line; an empty text has none. -/
def entriesOf (text : String) : List String :=
  if text = "" then [] else (text.toList.splitOn '\n').map String.ofList

/-- What can stand on a line of its own. -/
def IsEntry (term : String) : Prop := term ≠ "" ∧ '\n' ∉ term.toList ∧ '\r' ∉ term.toList

section Entries
variable {entries : List String}

theorem splitOn_intercalate_entries (h : ∀ e ∈ entries, '\n' ∉ e.toList) (hne : entries ≠ []) :
    (("\n".intercalate entries).toList.splitOn '\n').map String.ofList = entries := by
  have hsplit : (['\n'].intercalate (entries.map String.toList)).splitOn '\n' =
      entries.map String.toList := by
    apply List.splitOn_intercalate
    · simpa using h
    · simpa using hne
  have hid : String.ofList ∘ String.toList = id := by
    funext s
    exact String.ofList_toList
  rw [String.toList_intercalate]
  change ((['\n'].intercalate _).splitOn '\n').map String.ofList = entries
  rw [hsplit, List.map_map, hid, List.map_id]

theorem intercalate_eq_empty_iff (h : ∀ e ∈ entries, IsEntry e) :
    "\n".intercalate entries = "" ↔ entries = [] := by
  constructor
  · intro hempty
    by_contra hne
    have hsplit := splitOn_intercalate_entries (fun e he => (h e he).2.1) hne
    rw [hempty] at hsplit
    have hmem : "" ∈ entries := by
      rw [← hsplit]
      simp
    exact (h "" hmem).1 rfl
  · rintro rfl
    rfl

theorem entriesOf_intercalate (h : ∀ e ∈ entries, IsEntry e) :
    entriesOf ("\n".intercalate entries) = entries := by
  unfold entriesOf
  split
  next hempty => exact ((intercalate_eq_empty_iff h).mp hempty).symm
  next hne =>
    have hentries : entries ≠ [] := fun hnil => hne ((intercalate_eq_empty_iff h).mpr hnil)
    exact splitOn_intercalate_entries (fun e he => (h e he).2.1) hentries

theorem no_return_intercalate (h : ∀ e ∈ entries, '\r' ∉ e.toList) :
    '\r' ∉ ("\n".intercalate entries).toList := by
  induction entries with
  | nil => simp
  | cons e rest ih =>
    obtain ⟨he, hrest⟩ := List.forall_mem_cons.mp h
    cases rest with
    | nil => simpa using he
    | cons e' rest =>
      rw [String.intercalate_cons_cons, String.toList_append, String.toList_append]
      simp only [List.mem_append, not_or]
      exact ⟨⟨he, by decide⟩, ih hrest⟩

/-- Without its first character, a text has the same records but for the first. -/
theorem recordsOf_intercalate_tail (h : ∀ e ∈ entries, IsEntry e) {c : Char} {cs : List Char}
    (htext : ("\n".intercalate entries).toList = c :: cs) :
    ∃ first rest, entries = String.ofList (c :: first) :: rest ∧
      recordsOf (String.ofList cs) = String.ofList first :: rest := by
  cases entries with
  | nil => simp at htext
  | cons e rest =>
    obtain ⟨he, hrest⟩ := List.forall_mem_cons.mp h
    cases hchars : e.toList with
    | nil => exact absurd (String.toList_eq_nil_iff.mp hchars) he.1
    | cons c' first =>
      obtain rfl : e = String.ofList (c' :: first) := by rw [← hchars, String.ofList_toList]
      rw [String.toList_intercalate, List.map_cons, hchars, List.intercalate_cons_cons_left,
        List.cons.injEq] at htext
      obtain ⟨rfl, htail⟩ := htext
      have hcs : String.ofList cs = "\n".intercalate (String.ofList first :: rest) := by
        apply String.toList_injective
        simp only [String.toList_intercalate, List.map_cons, String.toList_ofList]
        exact htail.symm
      refine ⟨first, rest, rfl, ?_⟩
      rw [hcs]
      refine recordsOf_intercalate_lineBreak .feed ?_ (List.cons_ne_nil _ _)
      obtain ⟨-, hn, hr⟩ := he
      rw [hchars, List.mem_cons, not_or] at hn hr
      rw [List.forall_mem_cons, String.toList_ofList]
      exact ⟨⟨hn.2, hr.2⟩, fun e' he' => (hrest e' he').2⟩

end Entries

def textLists (delimiter : Char) (noise : NoiseRule) (text : String) : Wordlists :=
  generate delimiter noise (recordsOf text)

section Lists
variable {delimiter : Char} {noise : NoiseRule} {text : String} {kind : ListKind} {term : String}

/-- A term made from the lines of a text can stand on a line itself, and is made from that line
again. -/
theorem isEntry_of_mem (h : term ∈ (textLists delimiter noise text).get kind) :
    IsEntry term ∧ delimiter ∉ term.toList ∧ noise.drops term = false := by
  obtain ⟨hne, ⟨record, hrecord, hpiece⟩, hdrops⟩ :=
    (mem_terms_generate_iff _ _ _ _).mp (mem_terms_of_mem_get h)
  obtain ⟨hn, hr⟩ := no_break_of_mem_recordsOf hrecord
  exact ⟨⟨hne, fun hc => hn (hpiece.mem_of_mem hc), fun hc => hr (hpiece.mem_of_mem hc)⟩,
    hpiece.1, hdrops⟩

theorem isEntry_of_mem_toList {term : String}
    (h : term ∈ ((textLists delimiter noise text).get kind).toList) : IsEntry term :=
  (isEntry_of_mem (Std.ExtTreeSet.mem_toList.mp h)).1

theorem entriesOf_text : entriesOf ((textLists delimiter noise text).text kind) =
    ((textLists delimiter noise text).get kind).toList := by
  rw [Wordlists.text_eq, entriesOf_intercalate fun e => isEntry_of_mem_toList]

theorem recordsOf_text :
    recordsOf ((textLists delimiter noise text).text kind) =
      if ((textLists delimiter noise text).get kind).toList = [] then [""]
      else ((textLists delimiter noise text).get kind).toList := by
  rw [Wordlists.text_eq]
  split
  next hnil =>
    rw [hnil]
    rfl
  next hne =>
    exact recordsOf_intercalate_lineBreak .feed (fun e he => (isEntry_of_mem_toList he).2) hne

theorem mem_recordsOf_text_iff (hne : term ≠ "") :
    term ∈ recordsOf ((textLists delimiter noise text).text kind) ↔
      term ∈ (textLists delimiter noise text).get kind := by
  rw [recordsOf_text, ← Std.ExtTreeSet.mem_toList]
  split
  next hnil =>
    rw [hnil]
    simpa using hne
  next => exact Iff.rfl

theorem mem_terms_reload_iff :
    term ∈ (textLists delimiter noise ((textLists delimiter noise text).text kind)).terms ↔
      term ∈ (textLists delimiter noise text).get kind := by
  have hplain : ∀ record ∈ recordsOf ((textLists delimiter noise text).text kind),
      delimiter ∉ record.toList := by
    intro record hrecord
    by_cases hne : record = ""
    · simp [hne]
    · exact (isEntry_of_mem ((mem_recordsOf_text_iff hne).mp hrecord)).2.1
  rw [textLists, mem_generate_iff_of_plain hplain]
  constructor
  · rintro ⟨hne, hrecord, -⟩
    exact (mem_recordsOf_text_iff hne).mp hrecord
  · intro hmem
    obtain ⟨⟨hne, -⟩, -, hdrops⟩ := isEntry_of_mem hmem
    exact ⟨hne, (mem_recordsOf_text_iff hne).mpr hmem, hdrops⟩

theorem text_reload :
    (textLists delimiter noise ((textLists delimiter noise text).text kind)).text .terms =
      (textLists delimiter noise text).text kind := by
  have hterms : (textLists delimiter noise ((textLists delimiter noise text).text kind)).terms =
      (textLists delimiter noise text).get kind :=
    Std.ExtTreeSet.ext_mem fun _ => mem_terms_reload_iff
  rw [Wordlists.text_eq, Wordlists.get, hterms, ← Wordlists.text_eq]

theorem mem_byCasing_textLists_iff (casing : Casing) :
    term ∈ (textLists delimiter noise text).byCasing.get casing ↔
      term ∈ (textLists delimiter noise text).terms ∧ Casing.ofTerm term = casing :=
  mem_byCasing_generate_iff delimiter noise (recordsOf text) casing term

theorem mem_byCasing_reload_iff (casing : Casing)
    (h : term ∈ (textLists delimiter noise text).get kind) :
    term ∈ (textLists delimiter noise
        ((textLists delimiter noise text).text kind)).byCasing.get casing ↔
      term ∈ (textLists delimiter noise text).byCasing.get casing := by
  have hterms : term ∈ (textLists delimiter noise text).terms := mem_terms_of_mem_get h
  rw [mem_byCasing_textLists_iff, mem_byCasing_textLists_iff, mem_terms_reload_iff]
  exact and_congr_left fun _ => iff_of_true h hterms

end Lists

theorem textLists_tail_ne {delimiter : Char} {noise : NoiseRule} {text : String} {kind : ListKind}
    {c : Char} {cs : List Char}
    (h : ((textLists delimiter noise text).text kind).toList = c :: cs) :
    recordsOf (String.ofList cs) ≠ ((textLists delimiter noise text).get kind).toList ∧
      (textLists delimiter noise (String.ofList cs)).text .terms ≠
        (textLists delimiter noise text).text kind := by
  rw [Wordlists.text_eq] at h
  obtain ⟨first, rest, hentries, hrecords⟩ :=
    recordsOf_intercalate_tail (fun e => isEntry_of_mem_toList) h
  have hne : String.ofList (c :: first) ≠ String.ofList first := by
    intro heq
    have hlen := congrArg String.length heq
    rw [String.length_ofList, String.length_ofList, List.length_cons] at hlen
    omega
  constructor
  · rw [hrecords, hentries]
    intro heq
    exact hne (List.cons.inj heq).1.symm
  · intro htext
    have hmem : String.ofList (c :: first) ∈
        (textLists delimiter noise (String.ofList cs)).terms := by
      have hterms : entriesOf ((textLists delimiter noise (String.ofList cs)).text .terms) =
          ((textLists delimiter noise (String.ofList cs)).get .terms).toList := entriesOf_text
      rw [htext, entriesOf_text, hentries] at hterms
      exact Std.ExtTreeSet.mem_toList.mp (hterms ▸ List.mem_cons_self)
    have hplain : ∀ record ∈ recordsOf (String.ofList cs), delimiter ∉ record.toList := by
      have hlist : ∀ e ∈ ((textLists delimiter noise text).get kind).toList,
          delimiter ∉ e.toList := fun e he => (isEntry_of_mem (Std.ExtTreeSet.mem_toList.mp he)).2.1
      rw [hentries, List.forall_mem_cons, String.toList_ofList, List.mem_cons, not_or] at hlist
      rw [hrecords, List.forall_mem_cons, String.toList_ofList]
      exact ⟨hlist.1.2, hlist.2⟩
    have hback := ((mem_generate_iff_of_plain hplain noise _).mp hmem).2.1
    rw [hrecords, List.mem_cons] at hback
    rcases hback with heq | hrest
    · exact hne heq
    · -- The entries ascend strictly, so that the first is not among the others.
      have hasc := Vocabulary.pairwise_toList ((textLists delimiter noise text).get kind)
      rw [hentries, List.pairwise_cons] at hasc
      exact lt_irrefl _ (hasc.1 _ hrest)

/-- The records of a text that is written as UTF-8 and read again. -/
def readBack (text : String) : List String :=
  recordsOf (Decoded.ofContent (Utf8.encode text)).text

theorem readBack_of_unmarked {text : String} (h : text.toList.head? ≠ some '\uFEFF') :
    readBack text = recordsOf text := by
  rw [readBack, Decoded.ofContent_encode h]

theorem readBack_of_marked {text : String} {cs : List Char} (h : text.toList = '\uFEFF' :: cs) :
    readBack text = recordsOf (String.ofList cs) := by
  rw [readBack, Decoded.ofContent_encode_mark h]

/-- From a list whose text begins with the character of the byte order mark, neither the entries nor
the list are had back. -/
theorem marked_list_lost {delimiter : Char} {noise : NoiseRule} {text : String} {kind : ListKind}
    (h : ((textLists delimiter noise text).text kind).toList.head? = some '\uFEFF') :
    let lists := textLists delimiter noise text
    let entries := entriesOf (lists.text kind)
    let back := readBack (lists.text kind)
    back ≠ (if entries = [] then [""] else entries) ∧
      (generate delimiter noise back).text .terms ≠ lists.text kind := by
  intro lists entries back
  have hentries : entries = (lists.get kind).toList := entriesOf_text
  obtain ⟨cs, hcs⟩ := List.head?_eq_some_iff.mp h
  have hback : back = recordsOf (String.ofList cs) := readBack_of_marked hcs
  have hne : entries ≠ [] := by
    intro hnil
    have htext := lists.text_eq kind
    rw [← hentries, hnil] at htext
    rw [htext] at hcs
    cases hcs
  obtain ⟨hrecords, hterms⟩ := textLists_tail_ne hcs
  rw [if_neg hne, hentries, hback]
  exact ⟨hrecords, hterms⟩

/-- The text of a list is split into exactly the terms of the list, and so determines them. Read as
a corpus it has them as its records, and the same list is made of them again, if and only if it does
not begin with the character of the byte order mark. -/
theorem lists_reload (delimiter : Char) (noise : NoiseRule) (text : String) (kind : ListKind) :
    let lists := generate delimiter noise (recordsOf text)
    let entries := entriesOf (lists.text kind)
    let back := readBack (lists.text kind)
    let again := generate delimiter noise back
    (entries.Pairwise (· < ·) ∧ (∀ term, term ∈ entries ↔ term ∈ lists.get kind) ∧
      (∀ entry ∈ entries, entry ≠ "") ∧ '\r' ∉ (lists.text kind).toList) ∧
    (∀ delimiter' noise' text' kind',
      let others := generate delimiter' noise' (recordsOf text')
      others.text kind' = lists.text kind → others.get kind' = lists.get kind) ∧
    ((back = (if entries = [] then [""] else entries) ∧ again.text .terms = lists.text kind ∧
      ∀ term ∈ lists.get kind, ∀ casing,
        term ∈ again.byCasing.get casing ↔ term ∈ lists.byCasing.get casing) ↔
      (lists.text kind).toList.head? ≠ some '\uFEFF') ∧
    ((lists.text kind).toList.head? = some '\uFEFF' →
      back ≠ (if entries = [] then [""] else entries) ∧
        again.text .terms ≠ lists.text kind) := by
  intro lists entries back again
  have hentries : entries = (lists.get kind).toList := entriesOf_text
  refine ⟨⟨?_, ?_, ?_, ?_⟩, ?_, ⟨?_, ?_⟩, marked_list_lost⟩
  · rw [hentries]
    exact Vocabulary.pairwise_toList _
  · intro term
    rw [hentries, Std.ExtTreeSet.mem_toList]
  · intro entry hentry
    rw [hentries] at hentry
    exact (isEntry_of_mem_toList hentry).1
  · rw [Wordlists.text_eq]
    exact no_return_intercalate fun e he => (isEntry_of_mem_toList he).2.2
  · intro delimiter' noise' text' kind' others htext
    have hothers : entriesOf (others.text kind') = (others.get kind').toList := entriesOf_text
    rw [htext] at hothers
    exact Std.ExtTreeSet.toList_inj.mp (hothers.symm.trans hentries)
  · rintro ⟨hback, -, -⟩ hmark
    obtain ⟨hlost, -⟩ := marked_list_lost hmark
    exact hlost hback
  · intro hmark
    have hback : back = recordsOf (lists.text kind) := readBack_of_unmarked hmark
    have hagain : again = textLists delimiter noise (lists.text kind) := by
      rw [textLists, ← hback]
    rw [hback, hagain, hentries]
    refine ⟨recordsOf_text, text_reload, ?_⟩
    intro term hterm casing
    exact mem_byCasing_reload_iff casing hterm

/-- An entry that begins with U+FEFF is lost in the first place, and kept behind another one. -/
theorem marked_entry_kept_behind_another :
    let alone := (generate '_' {} (recordsOf "\uFEFFA")).text .terms
    let behind := (generate '_' {} (recordsOf "\uFEFFA_A")).text .terms
    entriesOf alone = ["\uFEFFA"] ∧ readBack alone ≠ ["\uFEFFA"] ∧
      entriesOf behind = ["A", "\uFEFFA"] ∧ readBack behind = ["A", "\uFEFFA"] := by
  intro alone behind
  have halone : alone = "\uFEFFA" := by decide +kernel
  have hbehind : behind = "A\n\uFEFFA" := (Wordlists.text_eq _ _).trans (by decide +kernel)
  have hone : entriesOf alone = ["\uFEFFA"] := by
    rw [halone]
    decide +kernel
  have htwo : entriesOf behind = ["A", "\uFEFFA"] := by
    rw [hbehind]
    decide +kernel
  have hmarked : alone.toList.head? = some '\uFEFF' := by
    rw [halone]
    decide
  have hunmarked : behind.toList.head? ≠ some '\uFEFF' := by
    rw [hbehind]
    decide
  obtain ⟨-, -, -, hlose⟩ := lists_reload '_' {} "\uFEFFA" .terms
  obtain ⟨-, -, hkeep, -⟩ := lists_reload '_' {} "\uFEFFA_A" .terms
  have hlost : readBack alone ≠ if entriesOf alone = [] then [""] else entriesOf alone :=
    (hlose hmarked).1
  have hkept : readBack behind = if entriesOf behind = [] then [""] else entriesOf behind :=
    (hkeep.mpr hunmarked).1
  rw [hone] at hlost
  rw [htwo] at hkept
  exact ⟨hone, hlost, htwo, hkept⟩

end Lexicon
