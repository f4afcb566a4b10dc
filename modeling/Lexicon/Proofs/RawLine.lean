import Lexicon.Proofs.Ascii
import Lexicon.Proofs.Decoding
import Lexicon.Proofs.Record
import Lexicon.Proofs.Term

/-! Malformed bytes stay in their own line and term. The records of a corpus are its raw lines, each
decoded on its own, and so are its terms the raw pieces of those lines. -/

namespace Lexicon

/-- The lines of a byte string. A line ends at 0x0A, at 0x0D, or at both in the order of a pair. -/
def rawLines : Bytes → List Bytes
  | [] => [[]]
  | 0x0D :: 0x0A :: bs => [] :: rawLines bs
  | b :: bs =>
    if b = 0x0A ∨ b = 0x0D then [] :: rawLines bs else (rawLines bs).modifyHead (b :: ·)

def IsUnbroken (bs : Bytes) : Prop := 0x0A ∉ bs ∧ 0x0D ∉ bs

theorem isUnbroken_nil : IsUnbroken [] := ⟨List.not_mem_nil, List.not_mem_nil⟩

theorem isUnbroken_cons_iff {b : UInt8} {bs : Bytes} :
    IsUnbroken (b :: bs) ↔ ¬(b = 0x0A ∨ b = 0x0D) ∧ IsUnbroken bs := by
  unfold IsUnbroken
  rw [List.mem_cons, List.mem_cons, eq_comm (a := b), eq_comm (a := b)]
  tauto

/-- Bytes hold no line break, or have a first one. -/
theorem isUnbroken_or_exists_break (bs : Bytes) : IsUnbroken bs ∨
    ∃ front b rest, bs = front ++ b :: rest ∧ IsUnbroken front ∧ (b = 0x0A ∨ b = 0x0D) := by
  induction bs with
  | nil => exact .inl isUnbroken_nil
  | cons b bs ih =>
    by_cases hb : b = 0x0A ∨ b = 0x0D
    · exact .inr ⟨[], b, bs, rfl, isUnbroken_nil, hb⟩
    · rcases ih with hbs | ⟨front, other, rest, rfl, hfront, hother⟩
      · exact .inl (isUnbroken_cons_iff.mpr ⟨hb, hbs⟩)
      · exact .inr ⟨b :: front, other, rest, rfl, isUnbroken_cons_iff.mpr ⟨hb, hfront⟩, hother⟩

section RawLines
variable {front : Bytes}

theorem rawLines_pair (bs : Bytes) : rawLines (0x0D :: 0x0A :: bs) = [] :: rawLines bs := by
  rw [rawLines]

theorem rawLines_break {b : UInt8} {bs : Bytes} (hb : b = 0x0A ∨ b = 0x0D)
    (hpair : b = 0x0D → bs.head? ≠ some 0x0A) : rawLines (b :: bs) = [] :: rawLines bs := by
  rw [rawLines, if_pos hb]
  rintro rest rfl rfl
  exact hpair rfl rfl

theorem rawLines_append (hfront : IsUnbroken front) (bs : Bytes) :
    rawLines (front ++ bs) = (rawLines bs).modifyHead (front ++ ·) := by
  induction front with
  | nil => exact (congrFun List.modifyHead_id (rawLines bs)).symm
  | cons b front ih =>
    obtain ⟨hb, hfront⟩ := isUnbroken_cons_iff.mp hfront
    rw [List.cons_append, rawLines, if_neg hb, ih hfront, List.modifyHead_modifyHead]
    · rfl
    · intro _ hreturn
      exact absurd (.inr hreturn) hb

theorem rawLines_unbroken (hfront : IsUnbroken front) : rawLines front = [front] := by
  have h := rawLines_append hfront []
  rwa [List.append_nil, rawLines, List.modifyHead_cons, List.append_nil] at h

/-- Case analysis on where the first line of a byte string ends. The induction is on the length of
what follows its break. -/
theorem rawLines_induction {motive : Bytes → Prop}
    (last : ∀ front, IsUnbroken front → motive front)
    (pair : ∀ front rest, IsUnbroken front → motive rest →
      motive (front ++ 0x0D :: 0x0A :: rest))
    (single : ∀ front b rest, IsUnbroken front → (b = 0x0A ∨ b = 0x0D) →
      (b = 0x0D → rest.head? ≠ some 0x0A) → motive rest → motive (front ++ b :: rest))
    (bs : Bytes) : motive bs := by
  induction hn : bs.length using Nat.strongRecOn generalizing bs with
  | _ n ih =>
    rcases isUnbroken_or_exists_break bs with hbs | ⟨front, b, rest, rfl, hfront, hb⟩
    · exact last bs hbs
    rw [List.length_append, List.length_cons] at hn
    by_cases hpair : b = 0x0D ∧ rest.head? = some 0x0A
    · obtain ⟨rfl, hrest⟩ := hpair
      obtain ⟨rest, rfl⟩ := List.head?_eq_some_iff.mp hrest
      rw [List.length_cons] at hn
      exact pair front rest hfront (ih rest.length (by omega) rest rfl)
    · rw [not_and] at hpair
      exact single front b rest hfront hb hpair (ih rest.length (by omega) rest rfl)

end RawLines

namespace Reader.KeepsAscii
variable {r : Reader} (h : r.KeepsAscii)
include h

theorem not_mem_of_isUnbroken {front : Bytes} (hfront : IsUnbroken front) :
    '\n' ∉ (r.decode front).toList ∧ '\r' ∉ (r.decode front).toList :=
  ⟨h.not_mem_decode (c := '\n') (by decide) hfront.1,
    h.not_mem_decode (c := '\r') (by decide) hfront.2⟩

/-- The lines of a text are its raw lines, each decoded on its own. -/
theorem linesOf_decode (bs : Bytes) :
    linesOf (r.decode bs).toList = (rawLines bs).map fun line => (r.decode line).toList := by
  induction bs using rawLines_induction with
  | last front hfront =>
    have hlines := linesOf_append (h.not_mem_of_isUnbroken hfront) []
    rw [List.append_nil] at hlines
    rw [rawLines_unbroken hfront, hlines]
    simp
  | pair front rest hfront ih =>
    have hreturn : (0x0D : UInt8) = UInt8.ofNat '\r'.toNat := rfl
    have hline : (0x0A : UInt8) = UInt8.ofNat '\n'.toNat := rfl
    rw [rawLines_append hfront, rawLines_pair, hreturn, hline,
      h.toList_decode_append (by decide), h.toList_decode_cons (by decide),
      linesOf_append (h.not_mem_of_isUnbroken hfront), linesOf_pair, ih]
    simp
  | single front b rest hfront hb hpair ih =>
    obtain ⟨c, hc, hbyte, hbreak⟩ : ∃ c : Char, c.toNat < 0x80 ∧ b = UInt8.ofNat c.toNat ∧
        (c = '\n' ∨ c = '\r') := by
      rcases hb with rfl | rfl
      · exact ⟨'\n', by decide, rfl, .inl rfl⟩
      · exact ⟨'\r', by decide, rfl, .inr rfl⟩
    have hsingle : c = '\r' → (r.decode rest).toList.head? ≠ some '\n' := by
      rintro rfl
      exact h.head?_decode (by decide) (hpair hbyte)
    rw [rawLines_append hfront, rawLines_break hb hpair, hbyte, h.toList_decode_append hc,
      linesOf_append (h.not_mem_of_isUnbroken hfront), linesOf_break hbreak hsingle, ih]
    simp

theorem recordsOf_decode (bs : Bytes) : recordsOf (r.decode bs) = (rawLines bs).map r.decode := by
  rw [recordsOf_eq_map, h.linesOf_decode, List.map_map]
  exact List.map_congr_left fun line _ => String.ofList_toList

/-- The pieces of a record are the raw pieces of its line, each decoded on its own. -/
theorem pieces_decode {delimiter : Char} (hdelimiter : delimiter.toNat < 0x80) (line : Bytes) :
    pieces delimiter (r.decode line) =
      (line.splitOn (UInt8.ofNat delimiter.toNat)).map r.decode := by
  rw [pieces, h.splitOn_decode hdelimiter, List.map_map]
  exact List.map_congr_left fun piece _ => String.ofList_toList

theorem mem_tokenize_decode_iff {delimiter : Char} (hdelimiter : delimiter.toNat < 0x80)
    (bs : Bytes) (term : String) :
    term ∈ (tokenize delimiter (recordsOf (r.decode bs))).terms ↔
      ∃ line ∈ rawLines bs, ∃ piece ∈ line.splitOn (UInt8.ofNat delimiter.toNat),
        r.decode piece = term := by
  rw [mem_tokenize_iff, h.recordsOf_decode]
  constructor
  · rintro ⟨record, hrecord, hpiece⟩
    obtain ⟨line, hline, rfl⟩ := List.mem_map.mp hrecord
    rw [← mem_pieces_iff, h.pieces_decode hdelimiter] at hpiece
    exact ⟨line, hline, List.mem_map.mp hpiece⟩
  · rintro ⟨line, hline, hpiece⟩
    refine ⟨r.decode line, List.mem_map_of_mem hline, ?_⟩
    rw [← mem_pieces_iff, h.pieces_decode hdelimiter]
    exact List.mem_map.mpr hpiece

end Reader.KeepsAscii

theorem Encoding.keepsAscii {e : Encoding} (h : e = .utf8 ∨ e = .windows1252) :
    e.reader.KeepsAscii := by
  rcases h with rfl | rfl
  · exact Utf8.keepsAscii
  · exact Windows1252.keepsAscii

/-- The records of a text in UTF-8 or windows-1252 are its raw lines, each decoded on its own, and
its terms are the raw pieces of those lines, each decoded on its own, well-formed or not. -/
theorem records_of_rawLines {d : Detection} (hmark : d.markLength = 0)
    (hencoding : d.encoding = .utf8 ∨ d.encoding = .windows1252) (body : Bytes) :
    let text? (bs : Bytes) := (decode d bs).map (·.text)
    ∃ decoded, decode d body = some decoded ∧
      (rawLines body).map text? = (recordsOf decoded.text).map some ∧
      ∀ delimiter : Char, delimiter.toNat < 0x80 →
        let rawPieces (line : Bytes) := line.splitOn (UInt8.ofNat delimiter.toNat)
        (rawLines body).map (fun line => (rawPieces line).map text?) =
          (recordsOf decoded.text).map (fun record => (pieces delimiter record).map some) ∧
        ∀ term, term ∈ (tokenize delimiter (recordsOf decoded.text)).terms ↔
          ∃ line ∈ rawLines body, ∃ piece ∈ rawPieces line, text? piece = some term := by
  intro text?
  have hascii := Encoding.keepsAscii hencoding
  have htext (bs : Bytes) : text? bs = some (d.encoding.reader.decode bs) := by
    have hle : d.markLength ≤ bs.length := by omega
    have hdecode := decode_eq hle
    rw [hmark, List.drop_zero] at hdecode
    simp only [text?, hdecode, Option.map_some]
  obtain ⟨decoded, hdecoded, hall⟩ := Option.map_eq_some_iff.mp (htext body)
  refine ⟨decoded, hdecoded, ?_, fun delimiter hdelimiter => ⟨?_, fun term => ?_⟩⟩
  · rw [hall, hascii.recordsOf_decode, List.map_map]
    exact List.map_congr_left fun line _ => htext line
  · rw [hall, hascii.recordsOf_decode, List.map_map]
    refine List.map_congr_left fun line _ => ?_
    rw [Function.comp_apply, hascii.pieces_decode hdelimiter, List.map_map]
    exact List.map_congr_left fun piece _ => htext piece
  · rw [hall, hascii.mem_tokenize_decode_iff hdelimiter]
    simp only [htext, Option.some_inj]

/-- Sequences that are cut short by a line break and by a delimiter swallow neither. -/
theorem cut_sequences_contained :
    let body : Bytes := [0x61, 0xE2, 0x82, 0x0D, 0x0A, 0x62, 0xF0, 0x9F, 0x5F, 0x63, 0xC3]
    ∃ decoded, decode {} body = some decoded ∧ decoded.warning.isSome ∧
      recordsOf decoded.text = ["a\uFFFD", "b\uFFFD_c\uFFFD"] ∧
      "c\uFFFD" ∈ (tokenize '_' (recordsOf decoded.text)).terms := by
  intro body
  obtain ⟨decoded, hdecoded, hrecords, hterms⟩ := records_of_rawLines (d := {}) rfl (.inl rfl) body
  have hlines : (rawLines body).map (fun bs => (decode {} bs).map (·.text)) =
      ["a\uFFFD", "b\uFFFD_c\uFFFD"].map some := by decide +kernel
  have hwarning : (decode {} body).bind (·.warning) = some (.invalidUtf8 1) := by decide +kernel
  refine ⟨decoded, hdecoded, ?_, ?_, ?_⟩
  · rw [hdecoded] at hwarning
    rw [show decoded.warning = some (.invalidUtf8 1) from hwarning]
    rfl
  · exact (List.map_injective_iff.mpr (Option.some_injective _) (hlines.symm.trans hrecords)).symm
  · refine ((hterms '_' (by decide)).2 _).mpr ?_
    exact ⟨[0x62, 0xF0, 0x9F, 0x5F, 0x63, 0xC3], by decide, [0x63, 0xC3], by decide,
      by decide +kernel⟩

end Lexicon
