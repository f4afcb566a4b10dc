import Lexicon.Corpus.Loading
import Lexicon.Proofs.Detection
import Lexicon.Proofs.Utf16

/-! Decoding loses nothing without a warning. Each encoding gives back the bytes of a text if none
of them was malformed, and only then; a warning in UTF-8 names the place up to which they are a
text. -/

namespace Lexicon

namespace Encoding

theorem isValid_of_encode? {e : Encoding} {text : String} {bs : Bytes}
    (h : e.encode? text = some bs) : e.reader.isValid bs := by
  cases e with
  | utf8 =>
    obtain rfl := Option.some.inj h
    exact Utf8.isValid_encode text
  | utf16 order =>
    obtain rfl := Option.some.inj h
    exact Utf16.isValid_encode order text
  | windows1252 => exact windows1252_isValid bs

theorem encode?_decode_of_isValid {e : Encoding} {bs : Bytes} (h : e.reader.isValid bs) :
    e.encode? (e.reader.decode bs) = some bs := by
  cases e with
  | utf8 => exact congrArg some (Utf8.encode_decode h)
  | utf16 order => exact congrArg some (Utf16.encode_decode order h)
  | windows1252 => exact Windows1252.encode?_decode bs

theorem encode?_decode_eq_some_iff (e : Encoding) (bs : Bytes) :
    e.encode? (e.reader.decode bs) = some bs ↔ e.reader.isValid bs :=
  ⟨isValid_of_encode?, encode?_decode_of_isValid⟩

end Encoding

namespace Utf8

def validText (bs : Bytes) : String :=
  String.ofList (((utf8.scan bs).takeWhile Item.isScalar).map Item.char)

theorem foldl_utf8Size (cs : List Char) (n : Nat) :
    (cs.map Item.scalar).foldl (fun n item => n + item.char.utf8Size) n =
      n + (encode (String.ofList cs)).length := by
  induction cs generalizing n with
  | nil => rfl
  | cons c cs ih =>
    have hcons : encode (String.ofList (c :: cs)) =
        String.utf8EncodeChar c ++ encode (String.ofList cs) := by
      rw [encode_ofList, encode_ofList]
      rfl
    rw [List.map_cons, List.foldl_cons, ih, hcons, List.length_append,
      String.length_utf8EncodeChar, Nat.add_assoc]
    rfl

theorem takeWhile_scan (bs : Bytes) :
    (utf8.scan bs).takeWhile Item.isScalar = (validText bs).toList.map .scalar := by
  rw [validText, String.toList_ofList]
  exact Reader.eq_map_scalar List.all_takeWhile

theorem validLength_eq (bs : Bytes) : validLength bs = (encode (validText bs)).length := by
  rw [validLength, takeWhile_scan, foldl_utf8Size, Nat.zero_add, String.ofList_toList]

theorem isPrefix_encode_validText (bs : Bytes) : encode (validText bs) <+: bs := by
  refine ⟨((utf8.scan bs).dropWhile Item.isScalar).flatMap bytesOf, ?_⟩
  rw [encode_eq, ← takeWhile_scan, ← List.flatMap_append, List.takeWhile_append_dropWhile,
    flatMap_bytesOf_scan]

theorem validText_encode_append (text : String) (bs : Bytes) :
    validText (encode text ++ bs) = text ++ validText bs := by
  have hall : (text.toList.map Item.scalar).all Item.isScalar := by
    simp [Item.isScalar]
  have hchar : Item.char ∘ Item.scalar = id := rfl
  rw [validText, scan_encode_append,
    List.takeWhile_append_of_pos (List.all_eq_true.mp hall), List.map_append, List.map_map, hchar,
    List.map_id, String.ofList_append, String.ofList_toList]
  rfl

theorem validLength_encode_append (text : String) (bs : Bytes) :
    validLength (encode text ++ bs) = (encode text).length + validLength bs := by
  rw [validLength_eq, validText_encode_append, encode_append, List.length_append, validLength_eq]

/-- A text at the front lies before the first malformed run. -/
theorem length_encode_le_validLength {text : String} {bs : Bytes} (h : encode text <+: bs) :
    (encode text).length ≤ validLength bs := by
  obtain ⟨rest, rfl⟩ := h
  rw [validLength_encode_append]
  exact Nat.le_add_right _ _

/-- The bytes between two places are a text in UTF-8, and no longer ones from there are. -/
structure IsLongestText (content : Bytes) (start stop : Nat) : Prop where
  start_le : start ≤ stop
  le_length : stop ≤ content.length
  spelled : ∃ text, (content.take stop).drop start = encode text
  longest : ∀ other, start ≤ other → other ≤ content.length →
    (∃ text, (content.take other).drop start = encode text) → other ≤ stop

theorem isLongestText_validLength {content : Bytes} {start : Nat} (h : start ≤ content.length) :
    IsLongestText content start (validLength (content.drop start) + start) := by
  have hprefix := isPrefix_encode_validText (content.drop start)
  have hlength := validLength_eq (content.drop start)
  refine ⟨Nat.le_add_left _ _, ?_, ⟨validText (content.drop start), ?_⟩, ?_⟩
  · have hle := hprefix.length_le
    rw [List.length_drop] at hle
    omega
  · rw [List.drop_take, Nat.add_sub_cancel, hlength]
    exact (List.prefix_iff_eq_take.mp hprefix).symm
  · rintro other hstart hother ⟨text, htext⟩
    rw [List.drop_take] at htext
    have hlen := congrArg List.length htext
    rw [List.length_take, List.length_drop] at hlen
    have hle : (encode text).length ≤ validLength (content.drop start) :=
      length_encode_le_validLength (htext ▸ List.take_prefix _ _)
    omega

end Utf8

theorem decode_eq {d : Detection} {content : Bytes} (h : d.markLength ≤ content.length) :
    decode d content = some
      { text := d.encoding.reader.decode (content.drop d.markLength)
        warning := if d.encoding.reader.isValid (content.drop d.markLength) then none
          else if d.encoding = .utf8 then
            some (.invalidUtf8 (Utf8.validLength (content.drop d.markLength) + d.markLength))
          else some (.malformed d.encoding) } := by
  rw [decode, if_neg (Nat.not_lt.mpr h)]

theorem Decoded.ofContent_nil : ofContent [] = ⟨"", none⟩ := by
  have hempty : "".toList.head? ≠ some '\uFEFF' := by simp
  exact ofContent_encode hempty

theorem CorpusText.filter_warn_events (p : Path) (content : Bytes) :
    (ofContent p content).events.filter (·.level == .warn) =
      ((Decoded.ofContent content).warning.map Event.replaced).toList := by
  unfold ofContent
  split
  next hnil =>
    rw [hnil, Decoded.ofContent_nil]
    rfl
  next =>
    rw [List.filter_cons_of_neg (by simp [Event.level])]
    cases (Decoded.ofContent content).warning with
    | none => rfl
    | some warning => rfl

/-- A warning is given if and only if the text does not spell the bytes that it was read from. In
UTF-8 it names the end of the longest text at the front of them. -/
theorem warning_iff_lost (content : Bytes) :
    let d := Detection.ofContent content
    let body := content.drop d.markLength
    let decoded := Decoded.ofContent content
    decode d content = some decoded ∧
    (decoded.warning.isSome ↔ d.encoding.encode? decoded.text ≠ some body) ∧
    (∀ warning, decoded.warning = some warning →
      match warning with
      | .invalidUtf8 offset => d.encoding = .utf8 ∧ Utf8.IsLongestText content d.markLength offset
      | .malformed e => d.encoding = e ∧ e ≠ .utf8) ∧
    ∀ p, (CorpusText.ofContent p content).events.filter (·.level == .warn) =
      (decoded.warning.map Event.replaced).toList := by
  intro d body decoded
  have hmark : d.markLength ≤ content.length := Detection.markLength_ofContent_le content
  have hdecode : decode d content = some decoded := decode_ofContent content
  have hdecoded := Option.some.inj (hdecode.symm.trans (decode_eq hmark))
  refine ⟨hdecode, ?_, ?_, fun p => CorpusText.filter_warn_events p content⟩
  · rw [hdecoded, Ne, Encoding.encode?_decode_eq_some_iff]
    dsimp only
    split
    next hvalid => exact iff_of_false (by simp) (not_not_intro hvalid)
    next hvalid =>
      split
      · exact iff_of_true rfl hvalid
      · exact iff_of_true rfl hvalid
  · intro warning hwarning
    rw [hdecoded] at hwarning
    dsimp only at hwarning
    split at hwarning
    next => cases hwarning
    next =>
      split at hwarning
      next hutf8 =>
        obtain rfl := Option.some.inj hwarning
        exact ⟨hutf8, Utf8.isLongestText_validLength hmark⟩
      next hutf8 =>
        obtain rfl := Option.some.inj hwarning
        exact ⟨rfl, hutf8⟩

/-- Behind a mark, a sequence that is cut short is found where it begins. -/
theorem cut_sequence_located :
    let content : Bytes := [0xEF, 0xBB, 0xBF, 0x61, 0xE2, 0x82]
    (Decoded.ofContent content).warning = some (.invalidUtf8 4) ∧
      Utf8.IsLongestText content 3 4 := by
  intro content
  have hwarning : (Decoded.ofContent content).warning = some (.invalidUtf8 4) := by
    decide +kernel
  obtain ⟨-, -, hlocated, -⟩ := warning_iff_lost content
  exact ⟨hwarning, (hlocated _ hwarning).2⟩

end Lexicon
