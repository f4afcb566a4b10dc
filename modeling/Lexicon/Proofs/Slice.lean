import Lexicon.Proofs.Multibyte

/-! Slices that may fail: of bytes if they reach beyond these, of a text also if they part a
character. -/

namespace Lexicon

/-- The bytes from `start` up to `stop`, if these are places among them in this order. -/
def slice? (bs : Bytes) (start stop : Nat) : Option Bytes :=
  if start ≤ stop ∧ stop ≤ bs.length then some ((bs.take stop).drop start) else none

theorem slice?_append (front middle back : Bytes) :
    slice? (front ++ middle ++ back) front.length (front ++ middle).length = some middle := by
  have hstop : (front ++ middle).length ≤ (front ++ middle ++ back).length := by simp
  rw [slice?, if_pos ⟨by simp, hstop⟩, List.take_left, List.drop_left]

theorem slice?_take {bs : Bytes} {n : Nat} (h : n ≤ bs.length) : slice? bs 0 n = some (bs.take n) :=
  if_pos ⟨Nat.zero_le n, h⟩

theorem slice?_drop {bs : Bytes} {n : Nat} (h : n ≤ bs.length) :
    slice? bs n bs.length = some (bs.drop n) := by
  rw [slice?, if_pos ⟨h, Nat.le_refl _⟩, List.take_length]

theorem bounds_of_slice? {bs part : Bytes} {start stop : Nat}
    (h : slice? bs start stop = some part) : start ≤ stop ∧ stop ≤ bs.length := by
  unfold slice? at h
  split at h
  next hbounds => exact hbounds
  next => cases h

namespace Utf8

def isBoundary (bs : Bytes) (i : Nat) : Bool :=
  match bs[i]? with
  | some b => !isContinuation b
  | none => i = bs.length

/-- Of the bytes of a character, all but the first are continuation bytes. -/
theorem encodeChar_cases (c : Char) :
    ∃ b tail, String.utf8EncodeChar c = b :: tail ∧ ¬isContinuation b ∧
      ∀ u ∈ tail, isContinuation u := by
  by_cases hc : 0x80 ≤ c.toNat
  · obtain ⟨b, l, tail, hbytes, hl, htail, -⟩ := isSequence_encodeChar hc
    refine ⟨b, tail, hbytes, not_isContinuation_of_lead hl, ?_⟩
    cases tail with
    | nil => simp
    | cons t ts =>
      obtain ⟨⟨hlow, hhigh⟩, hts, -⟩ := htail
      have ht : isContinuation t := by
        rw [isContinuation, Bool.and_eq_true, decide_eq_true_iff, decide_eq_true_iff]
        exact ⟨UInt8.le_trans (bounds_of_lead hl).2.1 hlow, UInt8.le_trans hhigh (high_of_lead hl)⟩
      exact List.forall_mem_cons.mpr ⟨ht, hts⟩
  · refine ⟨_, [], encodeChar_one (Nat.not_le.mp hc), ?_, by simp⟩
    have hbyte : (UInt8.ofNat c.toNat).toNat = c.toNat := toNat_byte (by omega)
    rw [isContinuation_iff, hbyte]
    omega

theorem isBoundary_append (c : Char) (bs : Bytes) (i : Nat) :
    isBoundary (String.utf8EncodeChar c ++ bs) i ↔
      i = 0 ∨ ∃ j, i = (String.utf8EncodeChar c).length + j ∧ isBoundary bs j := by
  obtain ⟨b, tail, hbytes, hb, htail⟩ := encodeChar_cases c
  rw [hbytes, List.cons_append, List.length_cons]
  cases i with
  | zero => simp [isBoundary, hb]
  | succ i =>
    rcases Nat.lt_or_ge i tail.length with hlt | hge
    · have hbyte : (b :: (tail ++ bs))[i + 1]? = some tail[i] := by
        rw [List.getElem?_cons_succ, List.getElem?_append_left hlt, List.getElem?_eq_getElem hlt]
      have hcontinued := htail tail[i] (List.getElem_mem hlt)
      rw [isBoundary, hbyte]
      simp only [hcontinued, Bool.not_true]
      constructor
      · intro h
        cases h
      · rintro (h | ⟨j, h, -⟩) <;> omega
    · obtain ⟨j, rfl⟩ := Nat.exists_eq_add_of_le hge
      have hbyte : (b :: (tail ++ bs))[tail.length + j + 1]? = bs[j]? := by
        rw [List.getElem?_cons_succ, List.getElem?_append_right (by omega), Nat.add_sub_cancel_left]
      have hend : tail.length + j + 1 = (b :: (tail ++ bs)).length ↔ j = bs.length := by
        rw [List.length_cons, List.length_append]
        omega
      have hsame : isBoundary (b :: (tail ++ bs)) (tail.length + j + 1) = isBoundary bs j := by
        rw [isBoundary, hbyte, isBoundary]
        simp only [hend]
      rw [hsame]
      constructor
      · intro h
        exact .inr ⟨j, by omega, h⟩
      · rintro (h | ⟨k, hk, h⟩)
        · omega
        · obtain rfl : j = k := by omega
          exact h

/-- The test on bytes tells the places between the characters of a text. -/
theorem isBoundary_iff (text : String) (i : Nat) :
    isBoundary (encode text) i ↔
      ∃ front back, text = front ++ back ∧ (encode front).length = i := by
  have hchars (cs : List Char) (i : Nat) : isBoundary (cs.flatMap String.utf8EncodeChar) i ↔
      ∃ front back, cs = front ++ back ∧ (front.flatMap String.utf8EncodeChar).length = i := by
    induction cs generalizing i with
    | nil => simp [isBoundary, eq_comm]
    | cons c cs ih =>
      rw [List.flatMap_cons, isBoundary_append]
      constructor
      · rintro (rfl | ⟨j, rfl, hj⟩)
        · exact ⟨[], c :: cs, rfl, rfl⟩
        · obtain ⟨front, back, rfl, rfl⟩ := (ih j).mp hj
          exact ⟨c :: front, back, rfl, by rw [List.flatMap_cons, List.length_append]⟩
      · rintro ⟨front, back, hsplit, rfl⟩
        cases front with
        | nil => exact .inl rfl
        | cons a front =>
          rw [List.cons_append, List.cons.injEq] at hsplit
          obtain ⟨rfl, rfl⟩ := hsplit
          exact .inr ⟨_, by rw [List.flatMap_cons, List.length_append],
            (ih _).mpr ⟨front, back, rfl, rfl⟩⟩
  rw [encode, hchars]
  constructor
  · rintro ⟨front, back, hsplit, hlength⟩
    refine ⟨.ofList front, .ofList back, ?_, ?_⟩
    · rw [← String.ofList_append, ← hsplit, String.ofList_toList]
    · rw [encode, String.toList_ofList, hlength]
  · rintro ⟨front, back, rfl, rfl⟩
    exact ⟨front.toList, back.toList, String.toList_append, rfl⟩

end Utf8

/-- The part of a text between two places, if these are places between characters. -/
def textSlice? (text : String) (start stop : Nat) : Option String :=
  let bytes := Utf8.encode text
  if Utf8.isBoundary bytes start && Utf8.isBoundary bytes stop then
    (slice? bytes start stop).bind utf8.decode?
  else none

theorem textSlice?_append (front middle back : String) :
    textSlice? (front ++ middle ++ back) (Utf8.encode front).length
      (Utf8.encode (front ++ middle)).length = some middle := by
  have hstart : Utf8.isBoundary (Utf8.encode (front ++ middle ++ back))
      (Utf8.encode front).length :=
    (Utf8.isBoundary_iff _ _).mpr ⟨front, middle ++ back, String.append_assoc, rfl⟩
  have hstop : Utf8.isBoundary (Utf8.encode (front ++ middle ++ back))
      (Utf8.encode (front ++ middle)).length :=
    (Utf8.isBoundary_iff _ _).mpr ⟨front ++ middle, back, rfl, rfl⟩
  unfold textSlice?
  dsimp only
  rw [hstart, hstop, Bool.and_self, if_pos rfl, Utf8.encode_append, Utf8.encode_append,
    slice?_append]
  simp [Reader.decode?]

structure IsCut (text : String) (start stop : Nat) : Prop where
  start_le : start ≤ stop
  stop_le : stop ≤ (Utf8.encode text).length
  between : ∀ place ∈ [start, stop], ∃ front back,
    text = front ++ back ∧ (Utf8.encode front).length = place

theorem isCut_of_textSlice? {text part : String} {start stop : Nat}
    (h : textSlice? text start stop = some part) : IsCut text start stop := by
  unfold textSlice? at h
  dsimp only at h
  split at h
  next hplaces =>
    obtain ⟨bytes, hslice, -⟩ := Option.bind_eq_some_iff.mp h
    obtain ⟨hle, hstop⟩ := bounds_of_slice? hslice
    rw [Bool.and_eq_true, Utf8.isBoundary_iff, Utf8.isBoundary_iff] at hplaces
    exact ⟨hle, hstop, by simpa using hplaces⟩
  next => cases h

end Lexicon
