import Lexicon.Corpus.Encoding
import Lexicon.Proofs.Utf8

/-! Text written as UTF-8 is read back as it is, but for a byte order mark: the character U+FEFF at
the front of a text is taken for one, and is lost. -/

namespace Lexicon

namespace Utf8

theorem encodeChar_mark : String.utf8EncodeChar '\uFEFF' = [0xEF, 0xBB, 0xBF] := by decide

/-- A text in UTF-8 that begins with the bytes of a character begins with that character. -/
theorem head?_of_encode_eq {text : String} {c : Char} {rest : Bytes}
    (h : encode text = String.utf8EncodeChar c ++ rest) : text.toList.head? = some c := by
  have hscan := scan_encode text
  rw [h, scan_encodeChar_append] at hscan
  cases hcs : text.toList with
  | nil => simp [hcs] at hscan
  | cons a cs =>
    rw [hcs, List.map_cons, List.cons.injEq, Item.scalar.injEq] at hscan
    rw [List.head?_cons, hscan.1]

theorem encode_ne_cons {b : UInt8} (hb : 0x80 ≤ b.toNat) (hlead : lead b = none) (text : String)
    (rest : Bytes) : encode text ≠ b :: rest := by
  intro h
  have hvalid := isValid_encode text
  have hnot : ¬b < 0x80 := by
    simp only [UInt8.lt_iff_toNat_lt, UInt8.reduceToNat]
    omega
  have hread : utf8.read b rest = (.malformed [b], rest) := by
    change read b rest = _
    rw [read, if_neg hnot, hlead]
  rw [h, Reader.isValid, Reader.scan_cons, hread, List.all_cons] at hvalid
  cases hvalid

end Utf8

namespace Detection

/-- Of the three marks, only that of UTF-8 can begin a text in UTF-8. -/
theorem ofMark?_encode {text : String} (h : text.toList.head? ≠ some '\uFEFF') :
    ofMark? (Utf8.encode text) = none := by
  unfold ofMark?
  split
  next rest hcontent =>
    exact absurd (Utf8.head?_of_encode_eq (c := '\uFEFF') hcontent) h
  next rest hcontent => exact absurd hcontent (Utf8.encode_ne_cons (by decide) (by decide) text _)
  next rest hcontent => exact absurd hcontent (Utf8.encode_ne_cons (by decide) (by decide) text _)
  next => rfl

end Detection

theorem decode_ofContent (content : Bytes) :
    decode (.ofContent content) content = some (Decoded.ofContent content) :=
  (Option.some_get _).symm

namespace Decoded

theorem ofContent_eq {d : Detection} {content : Bytes} {decoded : Decoded}
    (hd : Detection.ofContent content = d) (h : decode d content = some decoded) :
    ofContent content = decoded := by
  have hdecode := decode_ofContent content
  rw [hd, h] at hdecode
  exact (Option.some.inj hdecode).symm

theorem ofContent_encode {text : String} (h : text.toList.head? ≠ some '\uFEFF') :
    ofContent (Utf8.encode text) = ⟨text, none⟩ := by
  have hd : Detection.ofContent (Utf8.encode text) = {} := by
    rw [Detection.ofContent, Detection.ofMark?_encode h, if_pos (Utf8.isValid_encode text)]
  refine ofContent_eq hd ?_
  simp [decode, Encoding.reader]

/-- Of a text that begins with U+FEFF, the rest is read. -/
theorem ofContent_encode_mark {text : String} {cs : List Char}
    (h : text.toList = '\uFEFF' :: cs) :
    ofContent (Utf8.encode text) = ⟨String.ofList cs, none⟩ := by
  have hbytes : Utf8.encode text = [0xEF, 0xBB, 0xBF] ++ Utf8.encode (String.ofList cs) := by
    rw [Utf8.encode, h, List.flatMap_cons, Utf8.encodeChar_mark, Utf8.encode, String.toList_ofList]
  have hd : Detection.ofContent (Utf8.encode text) = ⟨.utf8, .certain, 3⟩ := by
    rw [hbytes]
    rfl
  refine ofContent_eq hd ?_
  rw [hbytes]
  simp [decode, Encoding.reader]

end Decoded
end Lexicon
