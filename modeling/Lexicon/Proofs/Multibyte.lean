import Lexicon.Proofs.Decoding
import Mathlib.Data.List.Forall2
import Mathlib.Data.List.TakeWhile

/-! How UTF-8 beyond ASCII is found among bytes of any kind. The search reads up to a fault, skips
it and begins anew. A well-formed sequence is found wherever it stands, since the byte that leads it
continues no other sequence and so ends whatever is malformed before it. -/

namespace Lexicon

namespace Utf8

/-- The rows of Unicode Table 3-7 for sequences of more than one byte: the least and the greatest
value of each byte. -/
def rows : List (List (UInt8 × UInt8)) :=
  [[(0xC2, 0xDF), (0x80, 0xBF)],
   [(0xE0, 0xE0), (0xA0, 0xBF), (0x80, 0xBF)],
   [(0xE1, 0xEC), (0x80, 0xBF), (0x80, 0xBF)],
   [(0xED, 0xED), (0x80, 0x9F), (0x80, 0xBF)],
   [(0xEE, 0xEF), (0x80, 0xBF), (0x80, 0xBF)],
   [(0xF0, 0xF0), (0x90, 0xBF), (0x80, 0xBF), (0x80, 0xBF)],
   [(0xF1, 0xF3), (0x80, 0xBF), (0x80, 0xBF), (0x80, 0xBF)],
   [(0xF4, 0xF4), (0x80, 0x8F), (0x80, 0xBF), (0x80, 0xBF)]]

def InRange (range : UInt8 × UInt8) (b : UInt8) : Prop := range.1 ≤ b ∧ b ≤ range.2

instance (range : UInt8 × UInt8) (b : UInt8) : Decidable (InRange range b) :=
  inferInstanceAs (Decidable (_ ∧ _))

def IsWellFormed (seq : Bytes) : Prop := ∃ row ∈ rows, List.Forall₂ InRange row seq

section Rows

/-- What the row of a leading byte says of the bytes after it. -/
def Lead.row (l : Lead) : List (UInt8 × UInt8) :=
  (l.low, l.high) :: List.replicate (l.more - 1) (0x80, 0xBF)

/-- A byte stands at the head of one row if it leads a sequence, and of none otherwise. -/
theorem rows_of_byte (b : UInt8) :
    (rows.filter fun row => row.head?.any fun head => InRange head b).map List.tail =
      ((lead b).map Lead.row).toList := by
  have table : ∀ n < 256,
      (rows.filter fun row => row.head?.any fun head => InRange head (UInt8.ofNat n)).map
        List.tail = ((lead (UInt8.ofNat n)).map Lead.row).toList := by
    decide +kernel
  have hb := table b.toNat b.toNat_lt
  rwa [UInt8.ofNat_toNat] at hb

theorem exists_lead_of_mem_rows {head : UInt8 × UInt8} {row : List (UInt8 × UInt8)} {b : UInt8}
    (hrow : head :: row ∈ rows) (hb : InRange head b) : ∃ l, lead b = some l ∧ l.row = row := by
  have hmem : head :: row ∈ rows.filter fun row => row.head?.any fun head => InRange head b := by
    simp [hrow, hb]
  have htail := List.mem_map_of_mem (f := List.tail) hmem
  rw [rows_of_byte, Option.mem_toList] at htail
  exact Option.map_eq_some_iff.mp htail

theorem exists_row_of_lead {b : UInt8} {l : Lead} (h : lead b = some l) :
    ∃ head, head :: l.row ∈ rows ∧ InRange head b := by
  have hrow : l.row ∈ ((lead b).map Lead.row).toList := by simp [h]
  rw [← rows_of_byte] at hrow
  obtain ⟨row, hmem, htail⟩ := List.mem_map.mp hrow
  obtain ⟨hmem, hhead⟩ := List.mem_filter.mp hmem
  cases row with
  | nil => simp at hhead
  | cons head row =>
    obtain rfl : row = l.row := htail
    exact ⟨head, hmem, by simpa using hhead⟩

theorem isContinuation_iff_inRange (b : UInt8) : isContinuation b ↔ InRange (0x80, 0xBF) b := by
  simp [isContinuation, InRange]

theorem forall₂_replicate_iff (n : Nat) (ts : Bytes) :
    List.Forall₂ InRange (List.replicate n (0x80, 0xBF)) ts ↔
      (∀ u ∈ ts, isContinuation u) ∧ ts.length = n := by
  induction ts generalizing n with
  | nil => cases n <;> simp [List.replicate_succ]
  | cons t ts ih =>
    cases n with
    | zero => simp
    | succ n =>
      rw [List.replicate_succ, List.forall₂_cons, ih, ← isContinuation_iff_inRange,
        List.forall_mem_cons, List.length_cons, Nat.succ_inj, and_assoc]

theorem Lead.isTail_iff {l : Lead} (hpos : 1 ≤ l.more) (tail : Bytes) :
    l.IsTail tail ↔ List.Forall₂ InRange l.row tail := by
  cases tail with
  | nil => simp [IsTail, row]
  | cons t ts =>
    rw [row, List.forall₂_cons, forall₂_replicate_iff, IsTail, InRange]
    have hlen : ts.length + 1 = l.more ↔ ts.length = l.more - 1 := by omega
    rw [hlen]

/-- The well-formed sequences are the spellings of the characters beyond ASCII. -/
theorem isWellFormed_iff (seq : Bytes) :
    IsWellFormed seq ↔ ∃ c : Char, 0x80 ≤ c.toNat ∧ String.utf8EncodeChar c = seq := by
  constructor
  · rintro ⟨row, hrow, hseq⟩
    cases hseq with
    | nil => simp [rows] at hrow
    | @cons head b row tail hb htail =>
      obtain ⟨l, hl, rfl⟩ := exists_lead_of_mem_rows hrow hb
      have htail := (Lead.isTail_iff (bounds_of_lead hl).1 tail).mpr htail
      have hbytes := encodeChar_codePoint hl htail
      refine ⟨_, ?_, hbytes⟩
      -- A character of ASCII has no byte behind its first.
      by_contra hlow
      rw [encodeChar_one (Nat.not_le.mp hlow), List.cons.injEq] at hbytes
      rw [← hbytes.2] at htail
      exact htail
  · rintro ⟨c, hc, rfl⟩
    obtain ⟨b, l, tail, hbytes, hl, htail, -⟩ := isSequence_encodeChar hc
    obtain ⟨head, hrow, hb⟩ := exists_row_of_lead hl
    rw [hbytes]
    exact ⟨_, hrow, .cons hb ((Lead.isTail_iff (bounds_of_lead hl).1 tail).mp htail)⟩

end Rows

theorem not_isContinuation_of_lead {b : UInt8} {l : Lead} (h : lead b = some l) :
    ¬isContinuation b := by
  have hrange := lead_range h
  rw [isContinuation_iff]
  omega

/-- A character beyond ASCII is read wherever its bytes stand. -/
theorem hasNonAscii_of_spelled {c : Char} (hc : 0x80 ≤ c.toNat) (before after : Bytes) :
    hasNonAscii (before ++ (String.utf8EncodeChar c ++ after)) := by
  obtain ⟨b, l, tail, hbytes, hl, -, -⟩ := isSequence_encodeChar hc
  have hscan : utf8.scan (before ++ (String.utf8EncodeChar c ++ after)) =
      utf8.scan before ++ .scalar c :: utf8.scan after := by
    rw [← scan_encodeChar_append, hbytes, List.cons_append,
      scan_append_stop (not_isContinuation_of_lead hl)]
  rw [hasNonAscii, hscan, List.any_append, List.any_cons]
  simp [isMultibyte, hc]

theorem hasNonAscii_iff (bs : Bytes) :
    hasNonAscii bs ↔ ∃ seq, IsWellFormed seq ∧ seq <:+: bs := by
  constructor
  · intro h
    obtain ⟨c, hc, hspelled⟩ := exists_infix_of_hasNonAscii h
    exact ⟨_, (isWellFormed_iff _).mpr ⟨c, hc, rfl⟩, hspelled⟩
  · rintro ⟨seq, hseq, before, after, rfl⟩
    obtain ⟨c, hc, rfl⟩ := (isWellFormed_iff seq).mp hseq
    rw [List.append_assoc]
    exact hasNonAscii_of_spelled hc before after

structure Fault where
  validUpTo : Nat
  /-- How many bytes are malformed there. It is not known if the bytes end within a sequence. -/
  length? : Option Nat

def fault? (bs : Bytes) : Option Fault :=
  match (utf8.scan bs).dropWhile Item.isScalar with
  | .malformed run :: behind =>
    some ⟨validLength bs,
      if behind = [] ∧ (run.head?.bind lead).isSome then none else some run.length⟩
  | _ => none

def isAscii (bs : Bytes) : Bool := bs.all (· < 0x80)

inductive Round where
  | done (found : Bool)
  | left (rest : Bytes)

/-- One round of the search: the bytes before the first fault decide, unless they are ASCII. -/
def round (bs : Bytes) : Round :=
  match fault? bs with
  | none => .done !isAscii bs
  | some fault =>
    if !isAscii (bs.take fault.validUpTo) then .done true
    else match fault.length? with
      | some n => .left ((bs.drop fault.validUpTo).drop n)
      | none => .done false

inductive Finds : Bytes → Bool → Prop where
  | done {bs : Bytes} {found : Bool} (h : round bs = .done found) : Finds bs found
  | left {bs rest : Bytes} {found : Bool} (h : round bs = .left rest) (hrest : Finds rest found) :
    Finds bs found

theorem Finds.unique {bs : Bytes} {found other : Bool} (h : Finds bs found)
    (h' : Finds bs other) : found = other := by
  induction h with
  | done h =>
    cases h' with
    | done h' => exact Round.done.inj (h.symm.trans h')
    | left h' => cases h.symm.trans h'
  | left h _ ih =>
    cases h' with
    | done h' => cases h.symm.trans h'
    | left h' hrest =>
      obtain rfl := Round.left.inj (h.symm.trans h')
      exact ih hrest

section Ascii

theorem isAscii_encodeChar (c : Char) :
    isAscii (String.utf8EncodeChar c) = !isMultibyte (.scalar c) := by
  by_cases hc : c.toNat < 0x80
  · have hbyte : (UInt8.ofNat c.toNat).toNat = c.toNat := toNat_byte (by omega)
    rw [encodeChar_one hc]
    simp [isAscii, isMultibyte, UInt8.lt_iff_toNat_lt, hbyte, hc]
  · obtain ⟨b, tail, hbytes⟩ := List.exists_cons_of_ne_nil (encodeChar_ne_nil c)
    have hb : 0x80 ≤ b.toNat := le_of_mem_encodeChar (Nat.not_lt.mp hc) (by simp [hbytes])
    rw [hbytes]
    simp [isAscii, isMultibyte, UInt8.lt_iff_toNat_lt, Nat.not_lt.mpr hb, Nat.not_lt.mp hc]

theorem isAscii_encode (text : String) :
    isAscii (encode text) = !(text.toList.map Item.scalar).any isMultibyte := by
  rw [isAscii, encode, List.all_flatMap, List.any_map, List.not_any_eq_all_not]
  congr 1
  funext c
  exact isAscii_encodeChar c

/-- Behind a text the search goes on, unless the text has a character beyond ASCII. -/
theorem hasNonAscii_encode_append (text : String) (bs : Bytes) :
    hasNonAscii (encode text ++ bs) = (!isAscii (encode text) || hasNonAscii bs) := by
  rw [hasNonAscii, scan_encode_append, List.any_append, isAscii_encode, Bool.not_not]
  rfl

theorem hasNonAscii_encode (text : String) :
    hasNonAscii (encode text) = !isAscii (encode text) := by
  have h := hasNonAscii_encode_append text []
  have hnil : hasNonAscii [] = false := by simp [hasNonAscii]
  rwa [List.append_nil, hnil, Bool.or_false] at h

end Ascii

/-- Bytes that are not UTF-8 are a text, a malformed run and the bytes behind it. -/
theorem exists_run_of_invalid {bs : Bytes} (h : ¬utf8.isValid bs) :
    ∃ text run rest, bs = encode text ++ (run ++ rest) ∧ run ≠ [] ∧
      utf8.scan (run ++ rest) = .malformed run :: utf8.scan rest := by
  induction bs using utf8.scan_induction with
  | nil => simp [Reader.isValid] at h
  | cons b rest ih =>
    have hbytes : bytesOf (utf8.read b rest).1 ++ (utf8.read b rest).2 = b :: rest :=
      bytesOf_read b rest
    have hscan := utf8.scan_cons b rest
    cases hitem : (utf8.read b rest).1 with
    | scalar c =>
      rw [hitem] at hbytes hscan
      have hrest : ¬utf8.isValid (utf8.read b rest).2 := by
        intro hvalid
        apply h
        rw [Reader.isValid, hscan, List.all_cons]
        exact hvalid
      obtain ⟨text, run, rest', hsplit, hne, hrun⟩ := ih hrest
      refine ⟨String.singleton c ++ text, run, rest', ?_, hne, hrun⟩
      have hc : encode (String.singleton c) = bytesOf (.scalar c) := by simp [encode, bytesOf]
      rw [← hbytes, hsplit, encode_append, List.append_assoc, hc]
    | malformed run =>
      rw [hitem] at hbytes hscan
      refine ⟨"", run, (utf8.read b rest).2, hbytes.symm, ?_, ?_⟩
      · rcases read_malformed hitem with ⟨-, rfl⟩ | ⟨l, -, rfl, -⟩
        · exact List.cons_ne_nil _ _
        · exact List.cons_ne_nil _ _
      · have hrun : run ++ (utf8.read b rest).2 = b :: rest := hbytes
        rw [hrun, hscan]

section Rounds

theorem fault?_eq_none {bs : Bytes} (h : utf8.isValid bs) : fault? bs = none := by
  have hall : (utf8.scan bs).dropWhile Item.isScalar = [] := by
    rw [List.dropWhile_eq_nil_iff]
    exact List.all_eq_true.mp h
  rw [fault?, hall]

theorem fault?_of_run {run rest : Bytes}
    (h : utf8.scan (run ++ rest) = .malformed run :: utf8.scan rest) (text : String) :
    fault? (encode text ++ (run ++ rest)) = some ⟨(encode text).length,
      if utf8.scan rest = [] ∧ (run.head?.bind lead).isSome then none else some run.length⟩ := by
  have hall : ∀ item ∈ text.toList.map Item.scalar, item.isScalar := by
    simp [Item.isScalar]
  have hbehind : (utf8.scan (encode text ++ (run ++ rest))).dropWhile Item.isScalar =
      .malformed run :: utf8.scan rest := by
    rw [scan_encode_append, List.dropWhile_append_of_pos hall, h,
      List.dropWhile_cons_of_neg (by simp [Item.isScalar])]
  have hlength : validLength (run ++ rest) = 0 := by
    rw [validLength, h, List.takeWhile_cons_of_neg (by simp [Item.isScalar])]
    rfl
  rw [fault?, hbehind, validLength_encode_append, hlength, Nat.add_zero]

theorem round_of_valid (text : String) :
    round (encode text) = .done (hasNonAscii (encode text)) := by
  rw [round, fault?_eq_none (isValid_encode text), hasNonAscii_encode]

/-- A round answers what is to be answered of the bytes, or leaves it to what is to be answered of
fewer. -/
theorem round_cases (bs : Bytes) :
    round bs = .done (hasNonAscii bs) ∨ ∃ rest, round bs = .left rest ∧
      rest.length < bs.length ∧ hasNonAscii bs = hasNonAscii rest := by
  by_cases hvalid : utf8.isValid bs
  · obtain ⟨text, rfl⟩ := (isValid_iff bs).mp hvalid
    exact .inl (round_of_valid text)
  obtain ⟨text, run, rest, rfl, hne, hscan⟩ := exists_run_of_invalid hvalid
  have hfound : hasNonAscii (run ++ rest) = hasNonAscii rest := by
    rw [hasNonAscii, hscan, List.any_cons]
    rfl
  rw [hasNonAscii_encode_append, hfound, round, fault?_of_run hscan]
  dsimp only
  rw [List.take_left, List.drop_left]
  cases hascii : isAscii (encode text) with
  | false => exact .inl rfl
  | true =>
    by_cases hcut : utf8.scan rest = [] ∧ (run.head?.bind lead).isSome
    · left
      rw [if_pos hcut, hasNonAscii, hcut.1]
      rfl
    · right
      refine ⟨rest, ?_, ?_, rfl⟩
      · rw [if_neg hcut]
        simp
      · have hpos := List.length_pos_of_ne_nil hne
        rw [List.length_append, List.length_append]
        omega

/-- The search ends, and finds what a reading of all the bytes does. -/
theorem finds_hasNonAscii (bs : Bytes) : Finds bs (hasNonAscii bs) := by
  induction hn : bs.length using Nat.strongRecOn generalizing bs with
  | _ n ih =>
    rcases round_cases bs with hdone | ⟨rest, hleft, hlt, hfound⟩
    · exact .done hdone
    · rw [hfound]
      exact .left hleft (ih rest.length (by omega) rest rfl)

theorem finds_iff (bs : Bytes) (found : Bool) : Finds bs found ↔ hasNonAscii bs = found := by
  constructor
  · exact (finds_hasNonAscii bs).unique
  · rintro rfl
    exact finds_hasNonAscii bs

end Rounds
end Utf8

namespace Detection

/-- Without a mark, a character beyond ASCII anywhere among the bytes makes them UTF-8. -/
theorem ofContent_of_hasNonAscii {content : Bytes} (hmark : ofMark? content = none)
    (h : Utf8.hasNonAscii content) :
    ofContent content = { confidence := if utf8.isValid content then .certain else .mixed } := by
  rw [ofContent, hmark]
  by_cases hvalid : utf8.isValid content
  · simp [hvalid]
  · simp [hvalid, h]

end Detection

/-- The search for UTF-8 beyond ASCII ends for all bytes, and finds a well-formed sequence if and
only if one stands somewhere among them. Content without a byte order mark that holds one is read as
UTF-8, whatever else it holds. -/
theorem multibyte_found_anywhere (content : Bytes) :
    (∀ found, Utf8.Finds content found ↔
      (found = true ↔ ∃ seq, Utf8.IsWellFormed seq ∧ seq <:+: content)) ∧
    Utf8.Finds content (Utf8.hasNonAscii content) ∧
    (Detection.ofMark? content = none → ∀ seq, Utf8.IsWellFormed seq → seq <:+: content →
      let d := Detection.ofContent content
      d.encoding = .utf8 ∧ d.markLength = 0 ∧
      ((∃ text, content = Utf8.encode text) → d.confidence.text = "1.0") ∧
      ((¬∃ text, content = Utf8.encode text) → d.confidence.text = "0.5")) := by
  refine ⟨?ends, Utf8.finds_hasNonAscii content, ?detected⟩
  case ends =>
    intro found
    rw [Utf8.finds_iff, ← Utf8.hasNonAscii_iff]
    cases found <;> simp
  case detected =>
    intro hmark seq hseq hinfix d
    have hfound : Utf8.hasNonAscii content :=
      (Utf8.hasNonAscii_iff content).mpr ⟨seq, hseq, hinfix⟩
    have hd : d = _ := Detection.ofContent_of_hasNonAscii hmark hfound
    rw [← Utf8.isValid_iff, hd]
    refine ⟨rfl, rfl, ?_, ?_⟩
    · intro hvalid
      simp [hvalid, Confidence.text]
    · intro hvalid
      simp [hvalid, Confidence.text]

/-- A sequence of two bytes between the start of a longer one and a cut one. -/
theorem sequence_between_cuts_found :
    let content : Bytes := [0xFF, 0xF0, 0x9F, 0xC3, 0xA9, 0xE2, 0x82]
    Utf8.IsWellFormed [0xC3, 0xA9] ∧ Utf8.Finds content true ∧
      (Detection.ofContent content).encoding = .utf8 ∧
      (Detection.ofContent content).confidence.text = "0.5" := by
  intro content
  have hseq : Utf8.IsWellFormed [0xC3, 0xA9] :=
    ⟨[(0xC2, 0xDF), (0x80, 0xBF)], by decide, .cons (by decide) (.cons (by decide) .nil)⟩
  have hinfix : [0xC3, 0xA9] <:+: content := ⟨[0xFF, 0xF0, 0x9F], [0xE2, 0x82], rfl⟩
  have hinvalid : ¬∃ text, content = Utf8.encode text := by
    rw [← Utf8.isValid_iff]
    decide +kernel
  obtain ⟨hends, -, hdetected⟩ := multibyte_found_anywhere content
  obtain ⟨hencoding, -, -, hmixed⟩ := hdetected rfl _ hseq hinfix
  exact ⟨hseq, (hends true).mpr (iff_of_true rfl ⟨_, hseq, hinfix⟩), hencoding, hmixed hinvalid⟩

end Lexicon
