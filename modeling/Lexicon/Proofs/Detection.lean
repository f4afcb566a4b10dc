import Lexicon.Proofs.ByteOrderMark
import Lexicon.Proofs.Windows1252

/-! How a corpus in a single-byte encoding is read. The detection looks at all of its bytes, but the
guess that follows only at the first of them, so a long corpus whose first bytes are plain ASCII is
taken for UTF-8 after all. -/

namespace Lexicon

namespace Utf8

theorem read_malformed {b : UInt8} {rest bytes : Bytes} (h : (read b rest).1 = .malformed bytes) :
    (lead b = none ∧ bytes = [b]) ∨ ∃ l, lead b = some l ∧ bytes = b :: l.follow rest ∧
      (l.follow rest).length ≠ l.more := by
  unfold read at h
  split at h
  · cases h
  · cases hl : lead b with
    | none =>
      rw [hl] at h
      exact Or.inl ⟨rfl, (Item.malformed.inj h).symm⟩
    | some l =>
      rw [hl] at h
      dsimp only at h
      split at h
      next => cases h
      next hlen => exact Or.inr ⟨l, rfl, (Item.malformed.inj h).symm, hlen⟩

/-- Bytes are malformed either for their leading byte or for being cut short. -/
theorem malformed_of_mem_scan {bs bytes : Bytes} (h : .malformed bytes ∈ utf8.scan bs) :
    ∃ b rest, (lead b = none ∧ bytes = [b]) ∨ ∃ l, lead b = some l ∧ bytes = b :: l.follow rest ∧
      (l.follow rest).length ≠ l.more := by
  induction bs using Reader.scan_induction utf8 with
  | nil => simp at h
  | cons b rest ih =>
    rw [Reader.scan_cons, List.mem_cons] at h
    rcases h with h | h
    · exact ⟨b, rest, read_malformed h.symm⟩
    · exact ih h

theorem length_continuation_le (n : Nat) (bs : Bytes) : (continuation n bs).length ≤ n := by
  fun_induction continuation n bs with
  | case1 n b bs hb ih => exact Nat.succ_le_succ ih
  | case2 => exact Nat.zero_le _
  | case3 => exact Nat.zero_le _

/-- What follows a leading byte can be completed. -/
theorem exists_isTail {b : UInt8} {l : Lead} (h : lead b = some l) (rest : Bytes) :
    ∃ tail, l.IsTail tail ∧ l.follow rest <+: tail := by
  obtain ⟨hpos, -, hlow⟩ := bounds_of_lead h
  have hfill (n : Nat) : ∀ u ∈ List.replicate n 0x80, isContinuation u := by
    intro u hu
    rw [List.eq_of_mem_replicate hu]
    rfl
  have hnone : ∃ tail, l.IsTail tail ∧ [] <+: tail := by
    refine ⟨l.low :: List.replicate (l.more - 1) 0x80, ⟨⟨?_, ?_⟩, hfill _, ?_⟩, List.nil_prefix⟩
    · exact UInt8.le_refl _
    · exact hlow
    · rw [List.length_replicate]
      omega
  cases rest with
  | nil => exact hnone
  | cons t rest =>
    rw [Lead.follow]
    by_cases ht : l.low ≤ t && t ≤ l.high
    · have hle := length_continuation_le (l.more - 1) rest
      rw [if_pos ht]
      refine ⟨t :: (continuation (l.more - 1) rest ++ List.replicate
        (l.more - 1 - (continuation (l.more - 1) rest).length) 0x80), ⟨?_, ?_, ?_⟩, ?_⟩
      · simpa using ht
      · exact List.forall_mem_append.mpr ⟨fun u => isContinuation_of_mem, hfill _⟩
      · rw [List.length_append, List.length_replicate]
        omega
      · exact (List.prefix_cons_inj t).mpr (List.prefix_append _ _)
    · rw [if_neg ht]
      exact hnone

theorem continuation_of_length_le {n : Nat} {bs : Bytes} (h : ∀ u ∈ bs, isContinuation u)
    (hlen : bs.length ≤ n) : continuation n bs = bs := by
  induction bs generalizing n with
  | nil => cases n <;> rfl
  | cons u bs ih =>
    obtain ⟨hu, hbs⟩ := List.forall_mem_cons.mp h
    cases n with
    | zero => simp at hlen
    | succ n => rw [continuation, if_pos hu, ih hbs (Nat.le_of_succ_le_succ hlen)]

theorem Lead.follow_of_prefix {l : Lead} {tail cut : Bytes} (htail : l.IsTail tail)
    (hcut : cut <+: tail) : l.follow cut = cut := by
  cases cut with
  | nil => rfl
  | cons t cut =>
    obtain ⟨ts, rfl⟩ := hcut
    obtain ⟨hrange, hts, hlen⟩ := htail
    have hmem : ∀ u ∈ cut, isContinuation u := fun u hu => hts u (List.mem_append_left ts hu)
    rw [List.append_eq, List.length_append] at hlen
    rw [follow, if_pos (by simpa using hrange), continuation_of_length_le hmem (by omega)]

/-- A sequence cut short is read as one malformed run. -/
theorem scan_cut {b : UInt8} {l : Lead} {tail cut : Bytes} (h : lead b = some l)
    (htail : l.IsTail tail) (hcut : cut <+: tail) (hne : cut ≠ tail) :
    utf8.scan (b :: cut) = [.malformed (b :: cut)] := by
  have hfollow := Lead.follow_of_prefix htail hcut
  have hlen : cut.length ≠ l.more := by
    intro hlen
    exact hne (hcut.eq_of_length (hlen.trans htail.length_eq.symm))
  have hread : utf8.read b cut = (.malformed (b :: cut), []) := by
    change read b cut = _
    rw [read_of_lead h, hfollow, if_neg hlen, List.drop_length]
  rw [Reader.scan_cons, hread, Reader.scan_nil]

/-- What is found to be spelled among the bytes is spelled there. -/
theorem exists_infix_of_hasNonAscii {bs : Bytes} (h : hasNonAscii bs) :
    ∃ c : Char, 0x80 ≤ c.toNat ∧ String.utf8EncodeChar c <:+: bs := by
  rw [hasNonAscii, List.any_eq_true] at h
  obtain ⟨item, hmem, hmulti⟩ := h
  cases item with
  | malformed => cases hmulti
  | scalar c =>
    obtain ⟨before, after, hscan⟩ := List.append_of_mem hmem
    refine ⟨c, by simpa [isMultibyte] using hmulti, before.flatMap bytesOf,
      after.flatMap bytesOf, ?_⟩
    rw [← flatMap_bytesOf_scan bs, hscan, List.flatMap_append, List.flatMap_cons, List.append_assoc]
    rfl

theorem scan_of_prefix_encodeChar {c : Char} {bs : Bytes} (h : bs <+: String.utf8EncodeChar c) :
    utf8.isValid bs ∨ ∃ b cut, utf8.scan bs = [.malformed (b :: cut)] ∧ (lead b).isSome := by
  by_cases heq : bs = String.utf8EncodeChar c
  · exact Or.inl ((isValid_iff bs).mpr ⟨String.ofList [c], by simp [heq, encode]⟩)
  cases bs with
  | nil => exact Or.inl ((isValid_iff []).mpr ⟨"", rfl⟩)
  | cons b cut =>
    by_cases hc : c.toNat < 0x80
    · -- A character of one byte cannot be cut.
      rw [encodeChar_one hc, List.cons_prefix_cons, List.prefix_nil] at h
      obtain ⟨rfl, rfl⟩ := h
      exact absurd (encodeChar_one hc).symm heq
    · obtain ⟨b', l, tail, hbytes, hlead, htail, -⟩ := isSequence_encodeChar (c := c) (by omega)
      rw [hbytes, List.cons_prefix_cons] at h
      rw [hbytes] at heq
      obtain ⟨rfl, hcut⟩ := h
      have hne : cut ≠ tail := by
        rintro rfl
        exact heq rfl
      exact Or.inr ⟨b, cut, scan_cut hlead htail hcut hne, by rw [hlead, Option.isSome_some]⟩

/-- The start of a text is read as characters, and perhaps as one that is cut short. The induction
is on the text. -/
theorem scan_of_prefix {cs : List Char} {bs : Bytes} (h : bs <+: cs.flatMap String.utf8EncodeChar) :
    utf8.isValid bs ∨ ∃ before b cut, utf8.scan bs = before ++ [.malformed (b :: cut)] ∧
      (lead b).isSome ∧ before.all Item.isScalar := by
  induction cs generalizing bs with
  | nil =>
    rw [List.flatMap_nil, List.prefix_nil] at h
    exact Or.inl ((isValid_iff bs).mpr ⟨"", h⟩)
  | cons c cs ih =>
    rw [List.flatMap_cons] at h
    rcases List.prefix_or_prefix_of_prefix h (List.prefix_append _ _) with hshort | ⟨bs', rfl⟩
    · rcases scan_of_prefix_encodeChar hshort with hvalid | ⟨b, cut, hscan, hlead⟩
      · exact Or.inl hvalid
      · exact Or.inr ⟨[], b, cut, hscan, hlead, rfl⟩
    · rw [List.prefix_append_right_inj] at h
      rw [Reader.isValid, scan_encodeChar_append, List.all_cons]
      rcases ih h with hvalid | ⟨before, b, cut, hscan, hlead, hbefore⟩
      · exact Or.inl hvalid
      · exact Or.inr ⟨.scalar c :: before, b, cut, by rw [hscan, List.cons_append], hlead, hbefore⟩

end Utf8

namespace Detection

theorem startsUtf8_of_isValid {bs : Bytes} (h : utf8.isValid bs) : startsUtf8 bs := by
  rw [Reader.isValid, ← List.all_reverse] at h
  unfold startsUtf8
  cases hscan : (utf8.scan bs).reverse with
  | nil => rfl
  | cons last before =>
    rw [hscan, List.all_cons] at h
    cases last with
    | scalar c => exact h
    | malformed bytes => cases h

theorem startsUtf8_of_cut {bs : Bytes} {before : List Item} {b : UInt8} {cut : Bytes}
    (hscan : utf8.scan bs = before ++ [.malformed (b :: cut)]) (hlead : (Utf8.lead b).isSome)
    (hbefore : before.all Item.isScalar) : startsUtf8 bs := by
  rw [startsUtf8, hscan, List.reverse_append]
  simpa [hlead] using hbefore

theorem exists_prefix_of_startsUtf8 {bs : Bytes} (h : startsUtf8 bs) :
    ∃ text : String, bs <+: Utf8.encode text := by
  unfold startsUtf8 at h
  split at h
  next hscan =>
    rw [List.reverse_eq_nil_iff] at hscan
    have hbs := Utf8.flatMap_bytesOf_scan bs
    rw [hscan, List.flatMap_nil] at hbs
    exact ⟨"", by simp [← hbs]⟩
  next b cut before hscan =>
    rw [List.reverse_eq_cons_iff] at hscan
    obtain ⟨hlead, hbefore⟩ := Bool.and_eq_true_iff.mp h
    have hmem : Item.malformed (b :: cut) ∈ utf8.scan bs := by simp [hscan]
    obtain ⟨b', rest, ⟨hnone, heq⟩ | ⟨l, hl, heq, -⟩⟩ := Utf8.malformed_of_mem_scan hmem
    · obtain ⟨rfl, rfl⟩ := List.cons.inj heq
      simp [hnone] at hlead
    · obtain ⟨rfl, rfl⟩ := List.cons.inj heq
      obtain ⟨tail, htail, hcut⟩ := Utf8.exists_isTail hl rest
      -- The text ends with the character that the completed sequence spells.
      refine ⟨String.ofList (before.reverse.map Item.char ++
        [Char.ofNat (Utf8.codePoint b tail)]), ?_⟩
      have hitems : before.reverse = (before.reverse.map Item.char).map .scalar :=
        Reader.eq_map_scalar (by simpa using hbefore)
      rw [← Utf8.flatMap_bytesOf_scan bs, hscan, Utf8.encode_ofList, List.map_append, ← hitems,
        List.flatMap_append, List.flatMap_append, List.prefix_append_right_inj]
      simpa [Utf8.bytesOf, Utf8.encodeChar_codePoint hl htail] using hcut
  next last before _ hscan =>
    rw [List.reverse_eq_cons_iff] at hscan
    have hvalid : utf8.isValid bs := by
      rw [Reader.isValid, hscan, List.all_append, List.all_reverse, Bool.and_comm]
      simpa using h
    obtain ⟨text, rfl⟩ := (Utf8.isValid_iff bs).mp hvalid
    exact ⟨text, List.prefix_rfl⟩

theorem startsUtf8_of_prefix {bs : Bytes} {text : String} (h : bs <+: Utf8.encode text) :
    startsUtf8 bs := by
  rcases Utf8.scan_of_prefix h with hvalid | ⟨before, b, cut, hscan, hlead, hbefore⟩
  · exact startsUtf8_of_isValid hvalid
  · exact startsUtf8_of_cut hscan hlead hbefore

theorem startsUtf8_iff (bs : Bytes) : startsUtf8 bs ↔ ∃ text : String, bs <+: Utf8.encode text := by
  constructor
  · exact exists_prefix_of_startsUtf8
  · rintro ⟨text, h⟩
    exact startsUtf8_of_prefix h

/-- Bytes are left behind the sample, and the sample is the start of some text in UTF-8. -/
def IsMisled (content : Bytes) : Prop :=
  sampleLength < content.length ∧ ∃ text : String, content.take sampleLength <+: Utf8.encode text

theorem guess_eq_utf8_iff (content : Bytes) : guess content = .utf8 ↔ IsMisled content := by
  rw [IsMisled, ← startsUtf8_iff, guess]
  simp

theorem guess_eq_windows1252_iff (content : Bytes) :
    guess content = .windows1252 ↔ guess content ≠ .utf8 := by
  unfold guess
  split <;> simp

end Detection

section Reading
variable {content : Bytes}

theorem replacement_mem_decode (h : utf8.isValid content = false) :
    '\uFFFD' ∈ (utf8.decode content).toList := by
  rw [Reader.isValid, List.all_eq_false] at h
  obtain ⟨item, hmem, hitem⟩ := h
  rw [Reader.decode, String.toList_ofList, List.mem_map]
  cases item with
  | scalar c => simp [Item.isScalar] at hitem
  | malformed bytes => exact ⟨_, hmem, rfl⟩

end Reading

/-- A corpus in a single-byte encoding: no byte order mark, not UTF-8, and no character of UTF-8
beyond ASCII spelled anywhere in it. -/
structure IsSingleByte (content : Bytes) : Prop where
  unmarked : Detection.ofMark? content = none
  invalid : utf8.isValid content = false
  plain : ∀ c : Char, 0x80 ≤ c.toNat → ¬String.utf8EncodeChar c <:+: content

theorem IsSingleByte.ofContent_eq {content : Bytes} (h : IsSingleByte content) :
    Detection.ofContent content = ⟨Detection.guess content, .guessed, 0⟩ := by
  have hascii : ¬Utf8.hasNonAscii content := by
    intro hnon
    obtain ⟨c, hc, hspelled⟩ := Utf8.exists_infix_of_hasNonAscii hnon
    exact h.plain c hc hspelled
  rw [Detection.ofContent, h.unmarked]
  simp [h.invalid, hascii]

namespace IsSingleByte
variable {content : Bytes}

theorem encoding_eq (h : IsSingleByte content) :
    (Detection.ofContent content).encoding = Detection.guess content := by
  rw [h.ofContent_eq]

theorem decoded_of_windows1252 (h : IsSingleByte content)
    (hguess : Detection.guess content = .windows1252) :
    Decoded.ofContent content = ⟨String.ofList (content.map Windows1252.char), none⟩ := by
  refine Decoded.ofContent_eq h.ofContent_eq ?_
  rw [hguess]
  simp [decode, Encoding.reader, windows1252_isValid, windows1252_decode]

theorem decoded_of_utf8 (h : IsSingleByte content) (hguess : Detection.guess content = .utf8) :
    Decoded.ofContent content =
      ⟨utf8.decode content, some (.invalidUtf8 (Utf8.validLength content))⟩ := by
  refine Decoded.ofContent_eq h.ofContent_eq ?_
  rw [hguess]
  simp [decode, Encoding.reader, h.invalid]

end IsSingleByte

/-- A single-byte corpus is transcribed byte for byte, as windows-1252, unless nothing within the
sample speaks against UTF-8. Then it is read as the UTF-8 that it is known not to be. -/
theorem single_byte_transcribed {content : Bytes} (h : IsSingleByte content) :
    let d := Detection.ofContent content
    let decoded := Decoded.ofContent content
    decode d content = some decoded ∧
    (¬Detection.IsMisled content → d.encoding = .windows1252 ∧
      decoded = ⟨String.ofList (content.map Windows1252.char), none⟩ ∧
      decoded.text.length = content.length ∧ '\uFFFD' ∉ decoded.text.toList) ∧
    (Detection.IsMisled content → d.encoding = .utf8 ∧
      decoded.warning.isSome ∧ '\uFFFD' ∈ decoded.text.toList) := by
  intro d decoded
  have hd : d.encoding = Detection.guess content := h.encoding_eq
  refine ⟨decode_ofContent content, ?_, ?_⟩
  · intro hnot
    have hguess : Detection.guess content = .windows1252 :=
      (Detection.guess_eq_windows1252_iff content).mpr
        ((Detection.guess_eq_utf8_iff content).not.mpr hnot)
    have hdecoded : decoded = _ := h.decoded_of_windows1252 hguess
    refine ⟨hd.trans hguess, hdecoded, ?_, ?_⟩
    · rw [hdecoded, String.length_ofList, List.length_map]
    · rw [hdecoded, String.toList_ofList, List.mem_map]
      rintro ⟨b, -, hb⟩
      exact Windows1252.char_ne_replacement b hb
  · intro hmisled
    have hguess := (Detection.guess_eq_utf8_iff content).mpr hmisled
    have hdecoded : decoded = _ := h.decoded_of_utf8 hguess
    refine ⟨hd.trans hguess, ?_, ?_⟩
    · rw [hdecoded, Option.isSome_some]
    · rw [hdecoded]
      exact replacement_mem_decode h.invalid

section AsciiThenByte
variable (n : Nat)

theorem replicate_eq_encode :
    List.replicate n 0x61 = Utf8.encode (String.ofList (List.replicate n 'a')) := by
  have hbytes : String.utf8EncodeChar 'a' = [0x61] := by decide
  rw [Utf8.encode, String.toList_ofList, List.flatMap_replicate, hbytes,
    List.flatten_replicate_singleton]

theorem ascii_then_byte_isSingleByte : IsSingleByte (List.replicate n 0x61 ++ [0xE9]) where
  unmarked := by
    cases n with
    | zero => rfl
    | succ n => rfl
  invalid := by
    have hread : utf8.read 0xE9 [] = (.malformed [0xE9], []) := rfl
    rw [Reader.isValid, replicate_eq_encode, Utf8.scan_encode_append, Reader.scan_cons, hread,
      List.all_append, List.all_cons]
    simp [Item.isScalar]
  plain := by
    intro c hc hspelled
    obtain ⟨b, l, tail, hbytes, hlead, htail, -⟩ := Utf8.isSequence_encodeChar hc
    obtain ⟨before, after, hcontent⟩ := hspelled
    have htail : tail ≠ [] := by
      rintro rfl
      exact htail.elim
    -- Something follows a leading byte, so it is not the last byte.
    have hb : b ∈ (List.replicate n (0x61 : UInt8) ++ [0xE9]).dropLast := by
      rw [← hcontent, hbytes, List.append_assoc, List.cons_append,
        List.dropLast_append_of_ne_nil (List.cons_ne_nil _ _),
        List.dropLast_cons_of_ne_nil (List.append_ne_nil_of_left_ne_nil htail _)]
      simp
    rw [List.dropLast_concat] at hb
    rw [List.eq_of_mem_replicate hb] at hlead
    cases hlead

theorem ascii_then_byte_isMisled (h : Detection.sampleLength ≤ n) :
    Detection.IsMisled (List.replicate n 0x61 ++ [0xE9]) := by
  refine ⟨?_, String.ofList (List.replicate n 'a'), ?_⟩
  · rw [List.length_append, List.length_replicate]
    exact Nat.lt_succ_of_le h
  · rw [← replicate_eq_encode, List.take_append_of_le_length (by rwa [List.length_replicate])]
    exact List.take_prefix _ _

end AsciiThenByte

/-- After 65536 plain bytes, a byte that is no UTF-8 comes too late to be seen. -/
theorem single_byte_misread :
    let content := List.replicate 65536 0x61 ++ [0xE9]
    IsSingleByte content ∧ (Detection.ofContent content).encoding = .utf8 ∧
      (Decoded.ofContent content).warning.isSome ∧
      '\uFFFD' ∈ (Decoded.ofContent content).text.toList := by
  have hsample : Detection.sampleLength = 65536 := rfl
  have hsingle := ascii_then_byte_isSingleByte 65536
  have hmisled := ascii_then_byte_isMisled 65536 (Nat.le_of_eq hsample)
  have hguess := (Detection.guess_eq_utf8_iff _).mpr hmisled
  refine ⟨hsingle, hsingle.encoding_eq.trans hguess, ?_⟩
  rw [hsingle.decoded_of_utf8 hguess]
  exact ⟨rfl, replacement_mem_decode hsingle.invalid⟩

theorem single_byte_transcribed_short :
    IsSingleByte [0x61, 0xE9] ∧
      Decoded.ofContent [0x61, 0xE9] = ⟨String.ofList ['a', 'é'], none⟩ := by
  have hsingle : IsSingleByte [0x61, 0xE9] := ascii_then_byte_isSingleByte 1
  have hshort : ¬Detection.IsMisled [0x61, 0xE9] := by
    rintro ⟨hlong, -⟩
    exact absurd hlong (by decide)
  exact ⟨hsingle, ((single_byte_transcribed hsingle).2.1 hshort).2.1⟩

end Lexicon
