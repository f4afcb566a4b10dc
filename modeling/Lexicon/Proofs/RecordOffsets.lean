import Lexicon.Proofs.ByteOrderMark
import Lexicon.Proofs.Record
import Lexicon.Proofs.Slice

/-! Records cut out of a text at the places of its line breaks. Every cut is made between two
characters, with its start before its end. -/

namespace Lexicon

/-- The places of the bytes that end lines, from the first to the last, counted from `base`. -/
def breaksFrom (base : Nat) : Bytes → List Nat
  | [] => []
  | b :: bs =>
    if b = 0x0A ∨ b = 0x0D then base :: breaksFrom (base + 1) bs else breaksFrom (base + 1) bs

/-- Where the open line starts, and the records before it, the last one first. -/
structure Cutting where
  start : Nat := 0
  records : List String := []

namespace Cutting

/-- Goes on to the next line break. The line feed of a pair lies before the open line. -/
def next? (text : String) (s : Cutting) (place : Nat) : Option Cutting :=
  if place < s.start then some s
  else do
    let record ← textSlice? text s.start place
    let b ← (Utf8.encode text)[place]?
    let width := if b = 0x0D ∧ (Utf8.encode text)[place + 1]? = some 0x0A then 2 else 1
    some ⟨place + width, record :: s.records⟩

def finish? (text : String) (s : Cutting) : Option (List String) :=
  (textSlice? text s.start (Utf8.encode text).length).map fun record =>
    (record :: s.records).reverse

end Cutting

def cutRecords? (text : String) : Option (List String) :=
  (breaksFrom 0 (Utf8.encode text)).foldlM (Cutting.next? text) {} >>= Cutting.finish? text

theorem breaksFrom_append (base : Nat) {bs : Bytes} (h : ∀ b ∈ bs, ¬(b = 0x0A ∨ b = 0x0D))
    (rest : Bytes) : breaksFrom base (bs ++ rest) = breaksFrom (base + bs.length) rest := by
  induction bs generalizing base with
  | nil => rfl
  | cons b bs ih =>
    obtain ⟨hb, hbs⟩ := List.forall_mem_cons.mp h
    rw [List.cons_append, breaksFrom, if_neg hb, ih _ hbs, List.length_cons]
    congr 1
    omega

theorem Utf8.encode_ofList_cons (c : Char) (cs : List Char) :
    encode (.ofList (c :: cs)) = String.utf8EncodeChar c ++ encode (.ofList cs) := by
  rw [encode, String.toList_ofList, List.flatMap_cons, encode, String.toList_ofList]

theorem append_ofList {text : String} (front cs : List Char) :
    text ++ .ofList (front ++ cs) = text ++ .ofList front ++ .ofList cs := by
  rw [String.ofList_append, String.append_assoc]

/-- No other character has a byte that ends a line. -/
theorem not_break_of_mem_encodeChar {c : Char} (hn : c ≠ '\n') (hr : c ≠ '\r') :
    ∀ b ∈ String.utf8EncodeChar c, ¬(b = 0x0A ∨ b = 0x0D) := by
  have hown {a : Char} (ha : a.toNat < 0x80)
      (hmem : UInt8.ofNat a.toNat ∈ String.utf8EncodeChar c) : c = a := by
    have htext : UInt8.ofNat a.toNat ∈ Utf8.encode (.ofList [c]) := by
      rwa [Utf8.encode_ofList_cons, List.mem_append, Utf8.encode, String.toList_ofList, or_comm,
        List.flatMap_nil, List.mem_nil_iff, false_or]
    simpa [eq_comm] using Utf8.mem_of_mem_encode ha htext
  rintro b hb (rfl | rfl)
  · exact hn (hown (a := '\n') (by decide) hb)
  · exact hr (hown (a := '\r') (by decide) hb)

namespace Cutting

/-- At a line break the open line is cut, and the next one starts behind the break. -/
theorem next?_of_break (before line : String) {rest : String} {b : UInt8} {bs : Bytes}
    (hrest : Utf8.encode rest = b :: bs) (found : List String) :
    next? (before ++ line ++ rest) ⟨(Utf8.encode before).length, found⟩
        (Utf8.encode (before ++ line)).length =
      some ⟨(Utf8.encode (before ++ line)).length +
        if b = 0x0D ∧ bs.head? = some 0x0A then 2 else 1, line :: found⟩ := by
  have hle : ¬(Utf8.encode (before ++ line)).length < (Utf8.encode before).length := by
    rw [Utf8.encode_append, List.length_append]
    omega
  have hbytes : Utf8.encode (before ++ line ++ rest) = Utf8.encode (before ++ line) ++ b :: bs := by
    rw [Utf8.encode_append, hrest]
  have hbyte : (Utf8.encode (before ++ line ++ rest))[(Utf8.encode (before ++ line)).length]? =
      some b := by
    rw [hbytes, List.getElem?_append_right (Nat.le_refl _), Nat.sub_self, List.getElem?_cons_zero]
  have hbehind :
      (Utf8.encode (before ++ line ++ rest))[(Utf8.encode (before ++ line)).length + 1]? =
        bs.head? := by
    rw [hbytes, List.getElem?_append_right (by omega), Nat.add_sub_cancel_left,
      List.getElem?_cons_succ, List.head?_eq_getElem?]
  rw [next?, if_neg hle, textSlice?_append, hbyte, hbehind]
  rfl

theorem finish?_append (before line : String) (found : List String) :
    finish? (before ++ line) ⟨(Utf8.encode before).length, found⟩ =
      some (line :: found).reverse := by
  have hslice := textSlice?_append before line ""
  rw [String.append_empty] at hslice
  rw [finish?, hslice]
  rfl

/-- Whether the characters `cs` that end a text are cut into their lines, wherever among them an
open line reaches. -/
def CutsEnd (text : String) (cs : List Char) : Prop :=
  ∀ before line found, text = before ++ line ++ .ofList cs →
    ((breaksFrom (Utf8.encode (before ++ line)).length (Utf8.encode (.ofList cs))).foldlM
        (next? text) ⟨(Utf8.encode before).length, found⟩ >>= finish? text) =
      some (found.reverse ++ ((linesOf cs).modifyHead (line.toList ++ ·)).map String.ofList)

section CutsEnd
variable {text : String} {cs : List Char}

theorem cutsEnd_nil : CutsEnd text [] := by
  intro before line found htext
  rw [String.ofList_nil, String.append_empty] at htext
  have hbytes : Utf8.encode (.ofList []) = [] := rfl
  rw [htext, hbytes, breaksFrom, List.foldlM_nil]
  show finish? _ _ = _
  rw [finish?_append]
  simp

/-- Behind a break the lines are those behind it, with the line before it in front. -/
theorem CutsEnd.behind (h : CutsEnd text cs) {before line lineBreak : String}
    (htext : text = before ++ line ++ lineBreak ++ .ofList cs) {place : Nat}
    (hplace : place = (Utf8.encode (before ++ line)).length + (Utf8.encode lineBreak).length)
    (found : List String) :
    ((breaksFrom place (Utf8.encode (.ofList cs))).foldlM (next? text) ⟨place, line :: found⟩ >>=
        finish? text) =
      some (found.reverse ++ (([] :: linesOf cs).modifyHead (line.toList ++ ·)).map .ofList) := by
  have hend := h (before ++ line ++ lineBreak) "" (line :: found)
    (by rw [htext, String.append_empty])
  rw [String.append_empty, Utf8.encode_append (before ++ line), List.length_append,
    ← hplace] at hend
  rw [hend]
  cases linesOf cs <;> simp

theorem CutsEnd.pair (h : CutsEnd text cs) : CutsEnd text ('\r' :: '\n' :: cs) := by
  intro before line found htext
  have hbytes : Utf8.encode (.ofList ('\r' :: '\n' :: cs)) =
      0x0D :: 0x0A :: Utf8.encode (.ofList cs) := by
    rw [Utf8.encode_ofList_cons, Utf8.encode_ofList_cons]
    rfl
  have hnext := next?_of_break before line hbytes found
  rw [← htext, List.head?_cons, if_pos ⟨rfl, rfl⟩] at hnext
  rw [linesOf_pair, hbytes, breaksFrom, if_pos (.inr rfl), breaksFrom, if_pos (.inl rfl),
    List.foldlM_cons, hnext]
  show (((next? text _ _) >>= _) >>= _) = _
  -- The line feed lies before the open line, so it is passed over.
  rw [next?, if_pos (by simp)]
  exact h.behind (htext.trans (append_ofList ['\r', '\n'] cs)) rfl found

theorem CutsEnd.single {c : Char} (h : CutsEnd text cs) (hc : c = '\n' ∨ c = '\r')
    (hpair : c = '\r' → cs.head? ≠ some '\n') : CutsEnd text (c :: cs) := by
  intro before line found htext
  obtain ⟨b, hb, hbytes⟩ : ∃ b, (b = 0x0A ∨ b = 0x0D) ∧ String.utf8EncodeChar c = [b] := by
    rcases hc with rfl | rfl
    · exact ⟨0x0A, .inl rfl, rfl⟩
    · exact ⟨0x0D, .inr rfl, rfl⟩
  have hrest : Utf8.encode (.ofList (c :: cs)) = b :: Utf8.encode (.ofList cs) := by
    rw [Utf8.encode_ofList_cons, hbytes, List.singleton_append]
  have halone : ¬(b = 0x0D ∧ (Utf8.encode (.ofList cs)).head? = some 0x0A) := by
    rintro ⟨rfl, hfeed⟩
    obtain ⟨rest, hrest⟩ := List.head?_eq_some_iff.mp hfeed
    have hhead := Utf8.head?_of_encode_eq (c := '\n') hrest
    rw [String.toList_ofList] at hhead
    refine hpair ?_ hhead
    rcases hc with rfl | rfl
    · cases hbytes
    · rfl
  have hnext := next?_of_break before line hrest found
  rw [← htext, if_neg halone] at hnext
  rw [linesOf_break hc hpair, hrest, breaksFrom, if_pos hb, List.foldlM_cons, hnext]
  have hlength : (Utf8.encode (.ofList [c])).length = 1 := by
    rw [Utf8.encode_ofList_cons, hbytes]
    rfl
  exact h.behind (htext.trans (append_ofList [c] cs)) (by rw [hlength]) found

theorem CutsEnd.other {c : Char} (h : CutsEnd text cs) (hn : c ≠ '\n') (hr : c ≠ '\r') :
    CutsEnd text (c :: cs) := by
  intro before line found htext
  have hsplit : text = before ++ (line ++ String.ofList [c]) ++ .ofList cs := by
    rw [htext, ← List.singleton_append, append_ofList, ← String.append_assoc]
  have hend := h before (line ++ String.ofList [c]) found hsplit
  have hline : ((line ++ .ofList [c]).toList ++ ·) = (line.toList ++ ·) ∘ (c :: ·) := by
    funext rest
    simp
  have hplace : (Utf8.encode (before ++ (line ++ .ofList [c]))).length =
      (Utf8.encode (before ++ line)).length + (String.utf8EncodeChar c).length := by
    rw [← String.append_assoc, Utf8.encode_append (before ++ line), Utf8.encode_ofList_cons,
      List.length_append, List.length_append]
    rfl
  rw [hline, ← List.modifyHead_modifyHead, ← linesOf_cons hn hr, hplace] at hend
  rw [Utf8.encode_ofList_cons, breaksFrom_append _ (not_break_of_mem_encodeChar hn hr)]
  exact hend

end CutsEnd

theorem cutsEnd (text : String) (cs : List Char) : CutsEnd text cs := by
  induction cs using linesOf_induction with
  | nil => exact cutsEnd_nil
  | pair cs ih => exact ih.pair
  | single c cs hc hpair ih => exact ih.single hc hpair
  | other c cs hn hr ih => exact ih.other hn hr

end Cutting

theorem cutRecords?_eq (text : String) : cutRecords? text = some (recordsOf text) := by
  have hcut := Cutting.cutsEnd text text.toList "" "" [] (by simp)
  have hhead : (linesOf text.toList).modifyHead ("".toList ++ ·) = linesOf text.toList := by
    cases linesOf text.toList <;> rfl
  rw [hhead, String.ofList_toList] at hcut
  exact hcut

/-- Up to any line break the records before it are cut, and the cut made there is in order. -/
theorem exists_cutting (text : String) {earlier later : List Nat} {place : Nat}
    (hplaces : breaksFrom 0 (Utf8.encode text) = earlier ++ place :: later) :
    ∃ s, earlier.foldlM (Cutting.next? text) {} = some s ∧
      (s.start ≤ place → IsCut text s.start place) := by
  have hcut := cutRecords?_eq text
  rw [cutRecords?, hplaces, List.foldlM_append] at hcut
  obtain ⟨last, hall, -⟩ := Option.bind_eq_some_iff.mp hcut
  obtain ⟨s, hearlier, hlater⟩ := Option.bind_eq_some_iff.mp hall
  refine ⟨s, hearlier, fun hle => ?_⟩
  rw [List.foldlM_cons] at hlater
  obtain ⟨s', hnext, -⟩ := Option.bind_eq_some_iff.mp hlater
  rw [Cutting.next?, if_neg (Nat.not_lt.mpr hle)] at hnext
  obtain ⟨record, hslice, -⟩ := Option.bind_eq_some_iff.mp hnext
  exact isCut_of_textSlice? hslice

theorem exists_last_cutting (text : String) :
    ∃ s, (breaksFrom 0 (Utf8.encode text)).foldlM (Cutting.next? text) {} = some s ∧
      IsCut text s.start (Utf8.encode text).length := by
  obtain ⟨s, hall, hfinish⟩ := Option.bind_eq_some_iff.mp (cutRecords?_eq text)
  obtain ⟨record, hslice, -⟩ := Option.map_eq_some_iff.mp hfinish
  exact ⟨s, hall, isCut_of_textSlice? hslice⟩

end Lexicon
