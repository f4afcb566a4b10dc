import Lexicon.Text.Utf8
import Lexicon.Proofs.Reader

/-! Reading UTF-8 undoes writing it, and reading loses no byte. Both rest on one fact for each
length of a sequence: the bytes that the leading byte admits are those of a character. -/

namespace Lexicon

namespace Utf8

section Rows
variable {b : UInt8}

theorem lead_eq_none_iff : lead b = none ↔ b.toNat < 0xC2 ∨ 0xF5 ≤ b.toNat := by
  unfold lead
  simp only [UInt8.lt_iff_toNat_lt, ← UInt8.toNat_inj, UInt8.reduceToNat]
  repeat' split
  all_goals simp
  all_goals omega

theorem lead_two (hlow : 0xC2 ≤ b.toNat) (hhigh : b.toNat < 0xE0) :
    lead b = some ⟨1, 0x80, 0xBF⟩ := by
  unfold lead
  simp only [UInt8.lt_iff_toNat_lt, UInt8.reduceToNat]
  rw [if_neg (by omega), if_pos (by omega)]

/-- After a leading byte of three, the range of the next byte keeps out what two bytes can spell and
the surrogates. -/
theorem lead_three (hlow : 0xE0 ≤ b.toNat) (hhigh : b.toNat < 0xF0) :
    ∃ l, lead b = some l ∧ l.more = 2 ∧ ∀ t : UInt8, l.low ≤ t ∧ t ≤ l.high ↔
      (0x80 ≤ t.toNat ∧ t.toNat ≤ 0xBF) ∧ 0x800 ≤ b.toNat % 16 * 4096 + t.toNat % 64 * 64 ∧
        (b.toNat % 16 * 4096 + t.toNat % 64 * 64 < 0xD800 ∨
          0xE000 ≤ b.toNat % 16 * 4096 + t.toNat % 64 * 64) := by
  unfold lead
  simp only [UInt8.lt_iff_toNat_lt, UInt8.le_iff_toNat_le, ← UInt8.toNat_inj, UInt8.reduceToNat]
  repeat' split
  all_goals first
    | omega
    | refine ⟨_, rfl, rfl, fun t => ?_⟩
      simp only [UInt8.reduceToNat]
      omega

/-- After a leading byte of four, the range of the next byte keeps out what three bytes can spell
and what lies beyond the last character. -/
theorem lead_four (hlow : 0xF0 ≤ b.toNat) (hhigh : b.toNat < 0xF5) :
    ∃ l, lead b = some l ∧ l.more = 3 ∧ ∀ t : UInt8, l.low ≤ t ∧ t ≤ l.high ↔
      (0x80 ≤ t.toNat ∧ t.toNat ≤ 0xBF) ∧ 0x10000 ≤ b.toNat % 8 * 262144 + t.toNat % 64 * 4096 ∧
        b.toNat % 8 * 262144 + t.toNat % 64 * 4096 < 0x110000 := by
  unfold lead
  simp only [UInt8.lt_iff_toNat_lt, UInt8.le_iff_toNat_le, ← UInt8.toNat_inj, UInt8.reduceToNat]
  repeat' split
  all_goals first
    | omega
    | refine ⟨_, rfl, rfl, fun t => ?_⟩
      simp only [UInt8.reduceToNat]
      omega

theorem isContinuation_iff : isContinuation b ↔ 0x80 ≤ b.toNat ∧ b.toNat ≤ 0xBF := by
  simp only [isContinuation, Bool.and_eq_true, decide_eq_true_eq, UInt8.le_iff_toNat_le,
    UInt8.reduceToNat]

end Rows

section Encoding
variable {c : Char}

theorem encodeChar_one (hhigh : c.toNat < 0x80) :
    String.utf8EncodeChar c = [UInt8.ofNat c.toNat] := by
  have hv : c.val.toNat = c.toNat := rfl
  unfold String.utf8EncodeChar
  simp only [hv]
  rw [if_pos (by omega)]

theorem encodeChar_two (hlow : 0x80 ≤ c.toNat) (hhigh : c.toNat < 0x800) :
    String.utf8EncodeChar c =
      [UInt8.ofNat (c.toNat / 64 % 32 + 0xC0), UInt8.ofNat (c.toNat % 64 + 0x80)] := by
  have hv : c.val.toNat = c.toNat := rfl
  unfold String.utf8EncodeChar
  simp only [hv]
  rw [if_neg (by omega), if_pos (by omega)]

theorem encodeChar_three (hlow : 0x800 ≤ c.toNat) (hhigh : c.toNat < 0x10000) :
    String.utf8EncodeChar c =
      [UInt8.ofNat (c.toNat / 4096 % 16 + 0xE0), UInt8.ofNat (c.toNat / 64 % 64 + 0x80),
        UInt8.ofNat (c.toNat % 64 + 0x80)] := by
  have hv : c.val.toNat = c.toNat := rfl
  unfold String.utf8EncodeChar
  simp only [hv]
  rw [if_neg (by omega), if_neg (by omega), if_pos (by omega)]

theorem encodeChar_four (hlow : 0x10000 ≤ c.toNat) :
    String.utf8EncodeChar c =
      [UInt8.ofNat (c.toNat / 262144 % 8 + 0xF0), UInt8.ofNat (c.toNat / 4096 % 64 + 0x80),
        UInt8.ofNat (c.toNat / 64 % 64 + 0x80), UInt8.ofNat (c.toNat % 64 + 0x80)] := by
  have hv : c.val.toNat = c.toNat := rfl
  unfold String.utf8EncodeChar
  simp only [hv]
  rw [if_neg (by omega), if_neg (by omega), if_neg (by omega)]

theorem toNat_valid (c : Char) : c.toNat < 0xD800 ∨ 0xE000 ≤ c.toNat ∧ c.toNat < 0x110000 := by
  have h := c.valid
  simp only [UInt32.isValidChar, Nat.isValidChar] at h
  have hv : c.val.toNat = c.toNat := rfl
  omega

theorem toNat_ofNat {n : Nat} (h : n < 0xD800 ∨ 0xE000 ≤ n ∧ n < 0x110000) :
    (Char.ofNat n).toNat = n := by
  have hv : n.isValidChar := by
    unfold Nat.isValidChar
    omega
  have hchar : Char.ofNat n = Char.ofNatAux n hv := dif_pos hv
  rw [hchar]
  rfl

end Encoding

def Lead.IsTail (l : Lead) : Bytes → Prop
  | [] => False
  | t :: ts => (l.low ≤ t ∧ t ≤ l.high) ∧ (∀ u ∈ ts, isContinuation u) ∧ ts.length + 1 = l.more

theorem Lead.IsTail.length_eq {l : Lead} {tail : Bytes} (h : l.IsTail tail) :
    tail.length = l.more := by
  cases tail with
  | nil => exact h.elim
  | cons t ts => exact h.2.2

section CodePoint
variable (b t u w : UInt8)

theorem codePoint_two : codePoint b [t] = b.toNat % 32 * 64 + (t.toNat - 0x80) := rfl

theorem codePoint_three :
    codePoint b [t, u] = (b.toNat % 16 * 64 + (t.toNat - 0x80)) * 64 + (u.toNat - 0x80) := rfl

theorem codePoint_four :
    codePoint b [t, u, w] =
      ((b.toNat % 8 * 64 + (t.toNat - 0x80)) * 64 + (u.toNat - 0x80)) * 64 + (w.toNat - 0x80) :=
  rfl

end CodePoint

section Spelled
variable {b t u w : UInt8}

theorem encodeChar_codePoint_two (hb : 0xC2 ≤ b.toNat ∧ b.toNat < 0xE0)
    (ht : 0x80 ≤ t.toNat ∧ t.toNat ≤ 0xBF) :
    String.utf8EncodeChar (Char.ofNat (codePoint b [t])) = [b, t] := by
  have hv := codePoint_two b t
  have hc := toNat_ofNat (n := codePoint b [t]) (by omega)
  have h0 : codePoint b [t] / 64 % 32 + 0xC0 = b.toNat := by omega
  have h1 : codePoint b [t] % 64 + 0x80 = t.toNat := by omega
  rw [encodeChar_two (by omega) (by omega), hc, h0, h1, UInt8.ofNat_toNat, UInt8.ofNat_toNat]

/-- Three bytes spell a character that two cannot, and no surrogate, by their first two. -/
theorem encodeChar_codePoint_three (hb : 0xE0 ≤ b.toNat ∧ b.toNat < 0xF0)
    (ht : 0x80 ≤ t.toNat ∧ t.toNat ≤ 0xBF) (hu : 0x80 ≤ u.toNat ∧ u.toNat ≤ 0xBF)
    (hlow : 0x800 ≤ b.toNat % 16 * 4096 + t.toNat % 64 * 64)
    (hsurrogate : b.toNat % 16 * 4096 + t.toNat % 64 * 64 < 0xD800 ∨
      0xE000 ≤ b.toNat % 16 * 4096 + t.toNat % 64 * 64) :
    String.utf8EncodeChar (Char.ofNat (codePoint b [t, u])) = [b, t, u] := by
  have hv := codePoint_three b t u
  have hc := toNat_ofNat (n := codePoint b [t, u]) (by omega)
  have h0 : codePoint b [t, u] / 4096 % 16 + 0xE0 = b.toNat := by omega
  have h1 : codePoint b [t, u] / 64 % 64 + 0x80 = t.toNat := by omega
  have h2 : codePoint b [t, u] % 64 + 0x80 = u.toNat := by omega
  rw [encodeChar_three (by omega) (by omega), hc, h0, h1, h2, UInt8.ofNat_toNat,
    UInt8.ofNat_toNat, UInt8.ofNat_toNat]

theorem encodeChar_codePoint_four (hb : 0xF0 ≤ b.toNat ∧ b.toNat < 0xF5)
    (ht : 0x80 ≤ t.toNat ∧ t.toNat ≤ 0xBF) (hu : 0x80 ≤ u.toNat ∧ u.toNat ≤ 0xBF)
    (hw : 0x80 ≤ w.toNat ∧ w.toNat ≤ 0xBF)
    (hlow : 0x10000 ≤ b.toNat % 8 * 262144 + t.toNat % 64 * 4096)
    (hlast : b.toNat % 8 * 262144 + t.toNat % 64 * 4096 < 0x110000) :
    String.utf8EncodeChar (Char.ofNat (codePoint b [t, u, w])) = [b, t, u, w] := by
  have hv := codePoint_four b t u w
  have hc := toNat_ofNat (n := codePoint b [t, u, w]) (by omega)
  have h0 : codePoint b [t, u, w] / 262144 % 8 + 0xF0 = b.toNat := by omega
  have h1 : codePoint b [t, u, w] / 4096 % 64 + 0x80 = t.toNat := by omega
  have h2 : codePoint b [t, u, w] / 64 % 64 + 0x80 = u.toNat := by omega
  have h3 : codePoint b [t, u, w] % 64 + 0x80 = w.toNat := by omega
  rw [encodeChar_four (by omega), hc, h0, h1, h2, h3, UInt8.ofNat_toNat, UInt8.ofNat_toNat,
    UInt8.ofNat_toNat, UInt8.ofNat_toNat]

end Spelled

theorem lead_range {b : UInt8} {l : Lead} (h : lead b = some l) :
    0xC2 ≤ b.toNat ∧ b.toNat < 0xF5 := by
  have hb : ¬(b.toNat < 0xC2 ∨ 0xF5 ≤ b.toNat) := by
    rw [← lead_eq_none_iff, h]
    exact Option.some_ne_none l
  omega

theorem encodeChar_codePoint {b : UInt8} {l : Lead} {tail : Bytes} (h : lead b = some l)
    (ht : l.IsTail tail) : String.utf8EncodeChar (Char.ofNat (codePoint b tail)) = b :: tail := by
  obtain ⟨hlead, hlead'⟩ := lead_range h
  match tail, ht with
  | t :: ts, ⟨hrange, hts, hlen⟩ =>
  by_cases h2 : b.toNat < 0xE0
  · obtain rfl : l = ⟨1, 0x80, 0xBF⟩ := Option.some.inj (h.symm.trans (lead_two hlead h2))
    obtain rfl : ts = [] := List.length_eq_zero_iff.mp (by simpa using hlen)
    exact encodeChar_codePoint_two ⟨hlead, h2⟩ hrange
  by_cases h3 : b.toNat < 0xF0
  · obtain ⟨l', hl', hmore, hiff⟩ := lead_three (b := b) (by omega) h3
    obtain rfl : l = l' := Option.some.inj (h.symm.trans hl')
    obtain ⟨u, rfl⟩ : ∃ u, ts = [u] := List.length_eq_one_iff.mp (by omega)
    obtain ⟨ht, hlow, hsurrogate⟩ := (hiff t).mp hrange
    have hu := isContinuation_iff.mp (hts u List.mem_cons_self)
    exact encodeChar_codePoint_three ⟨by omega, h3⟩ ht hu hlow hsurrogate
  · obtain ⟨l', hl', hmore, hiff⟩ := lead_four (b := b) (by omega) (by omega)
    obtain rfl : l = l' := Option.some.inj (h.symm.trans hl')
    obtain ⟨u, w, rfl⟩ : ∃ u w, ts = [u, w] := List.length_eq_two.mp (by omega)
    obtain ⟨ht, hlow, hlast⟩ := (hiff t).mp hrange
    have hu := isContinuation_iff.mp (hts u List.mem_cons_self)
    have hw := isContinuation_iff.mp (hts w (by simp))
    exact encodeChar_codePoint_four ⟨by omega, hlead'⟩ ht hu hw hlow hlast

theorem toNat_byte {n : Nat} (h : n < 0x100) : (UInt8.ofNat n).toNat = n :=
  UInt8.toNat_ofNat_of_lt' h

/-- Beyond ASCII every byte of a character is beyond ASCII too. -/
theorem le_of_mem_encodeChar {c : Char} (hc : 0x80 ≤ c.toNat) {b : UInt8}
    (h : b ∈ String.utf8EncodeChar c) : 0x80 ≤ b.toNat := by
  have hvalid := toNat_valid c
  have hbyte {n : Nat} (hlow : 0x80 ≤ n) (hhigh : n < 0x100) : 0x80 ≤ (UInt8.ofNat n).toNat := by
    rw [toNat_byte hhigh]
    exact hlow
  by_cases h2 : c.toNat < 0x800
  · rw [encodeChar_two hc h2] at h
    simp only [List.mem_cons, List.not_mem_nil, or_false] at h
    rcases h with rfl | rfl <;> exact hbyte (by omega) (by omega)
  by_cases h3 : c.toNat < 0x10000
  · rw [encodeChar_three (by omega) h3] at h
    simp only [List.mem_cons, List.not_mem_nil, or_false] at h
    rcases h with rfl | rfl | rfl <;> exact hbyte (by omega) (by omega)
  · rw [encodeChar_four (by omega)] at h
    simp only [List.mem_cons, List.not_mem_nil, or_false] at h
    rcases h with rfl | rfl | rfl | rfl <;> exact hbyte (by omega) (by omega)

def IsSequence (bs : Bytes) (c : Char) : Prop :=
  ∃ b l tail, bs = b :: tail ∧ lead b = some l ∧ l.IsTail tail ∧ codePoint b tail = c.toNat

section Sequence
variable {c : Char}

theorem isSequence_two (hlow : 0x80 ≤ c.toNat) (hhigh : c.toNat < 0x800) :
    IsSequence (String.utf8EncodeChar c) c := by
  have hb : (UInt8.ofNat (c.toNat / 64 % 32 + 0xC0)).toNat = c.toNat / 64 % 32 + 0xC0 :=
    toNat_byte (by omega)
  have ht : (UInt8.ofNat (c.toNat % 64 + 0x80)).toNat = c.toNat % 64 + 0x80 :=
    toNat_byte (by omega)
  refine ⟨_, _, _, encodeChar_two hlow hhigh, lead_two (by omega) (by omega),
    ⟨?_, by simp, rfl⟩, ?_⟩
  · simp only [UInt8.le_iff_toNat_le, UInt8.reduceToNat, ht]
    omega
  · rw [codePoint_two]
    omega

theorem isSequence_three (hlow : 0x800 ≤ c.toNat) (hhigh : c.toNat < 0x10000) :
    IsSequence (String.utf8EncodeChar c) c := by
  have hvalid := toNat_valid c
  have hb : (UInt8.ofNat (c.toNat / 4096 % 16 + 0xE0)).toNat = c.toNat / 4096 % 16 + 0xE0 :=
    toNat_byte (by omega)
  have ht : (UInt8.ofNat (c.toNat / 64 % 64 + 0x80)).toNat = c.toNat / 64 % 64 + 0x80 :=
    toNat_byte (by omega)
  have hu : (UInt8.ofNat (c.toNat % 64 + 0x80)).toNat = c.toNat % 64 + 0x80 :=
    toNat_byte (by omega)
  obtain ⟨l, hl, hmore, hiff⟩ := lead_three (b := UInt8.ofNat (c.toNat / 4096 % 16 + 0xE0))
    (by omega) (by omega)
  refine ⟨_, l, _, encodeChar_three hlow hhigh, hl, ⟨(hiff _).mpr ?_, ?_, hmore.symm⟩, ?_⟩
  · omega
  · simp only [List.mem_singleton, forall_eq, isContinuation_iff]
    omega
  · rw [codePoint_three]
    omega

theorem isSequence_four (hlow : 0x10000 ≤ c.toNat) : IsSequence (String.utf8EncodeChar c) c := by
  have hvalid := toNat_valid c
  have hb : (UInt8.ofNat (c.toNat / 262144 % 8 + 0xF0)).toNat = c.toNat / 262144 % 8 + 0xF0 :=
    toNat_byte (by omega)
  have ht : (UInt8.ofNat (c.toNat / 4096 % 64 + 0x80)).toNat = c.toNat / 4096 % 64 + 0x80 :=
    toNat_byte (by omega)
  have hu : (UInt8.ofNat (c.toNat / 64 % 64 + 0x80)).toNat = c.toNat / 64 % 64 + 0x80 :=
    toNat_byte (by omega)
  have hw : (UInt8.ofNat (c.toNat % 64 + 0x80)).toNat = c.toNat % 64 + 0x80 :=
    toNat_byte (by omega)
  obtain ⟨l, hl, hmore, hiff⟩ := lead_four (b := UInt8.ofNat (c.toNat / 262144 % 8 + 0xF0))
    (by omega) (by omega)
  refine ⟨_, l, _, encodeChar_four hlow, hl, ⟨(hiff _).mpr ?_, ?_, hmore.symm⟩, ?_⟩
  · omega
  · simp only [List.forall_mem_cons, isContinuation_iff, List.not_mem_nil, false_implies,
      implies_true, and_true]
    omega
  · rw [codePoint_four]
    omega

theorem isSequence_encodeChar (hc : 0x80 ≤ c.toNat) : IsSequence (String.utf8EncodeChar c) c := by
  by_cases h2 : c.toNat < 0x800
  · exact isSequence_two hc h2
  by_cases h3 : c.toNat < 0x10000
  · exact isSequence_three (by omega) h3
  · exact isSequence_four (by omega)

end Sequence

/-- What a leading byte announces is never empty and lies beyond ASCII. -/
theorem bounds_of_lead {b : UInt8} {l : Lead} (h : lead b = some l) :
    1 ≤ l.more ∧ 0x80 ≤ l.low ∧ l.low ≤ l.high := by
  unfold lead at h
  repeat' split at h
  all_goals first
    | obtain rfl := Option.some.inj h
      decide
    | cases h

theorem high_of_lead {b : UInt8} {l : Lead} (h : lead b = some l) : l.high ≤ 0xBF := by
  unfold lead at h
  repeat' split at h
  all_goals first
    | obtain rfl := Option.some.inj h
      decide
    | cases h

section Follow

theorem isPrefix_continuation (n : Nat) (bs : Bytes) : continuation n bs <+: bs := by
  fun_induction continuation n bs with
  | case1 n b bs hb ih => exact (List.prefix_cons_inj b).mpr ih
  | case2 => exact List.nil_prefix
  | case3 => exact List.nil_prefix

theorem isContinuation_of_mem {n : Nat} {bs : Bytes} {u : UInt8} (h : u ∈ continuation n bs) :
    isContinuation u := by
  fun_induction continuation n bs with
  | case1 n b bs hb ih =>
    rcases List.mem_cons.mp h with rfl | h
    · exact hb
    · exact ih h
  | case2 => cases h
  | case3 => cases h

theorem continuation_append {ts : Bytes} (h : ∀ u ∈ ts, isContinuation u) (rest : Bytes) :
    continuation ts.length (ts ++ rest) = ts := by
  induction ts with
  | nil => simp [continuation]
  | cons t ts ih =>
    obtain ⟨ht, hts⟩ := List.forall_mem_cons.mp h
    simp [continuation, ht, ih hts]

theorem Lead.isPrefix_follow (l : Lead) (bs : Bytes) : l.follow bs <+: bs := by
  cases bs with
  | nil => exact List.nil_prefix
  | cons t bs =>
    rw [follow]
    by_cases h : l.low ≤ t && t ≤ l.high
    · rw [if_pos h]
      exact (List.prefix_cons_inj t).mpr (isPrefix_continuation _ bs)
    · rw [if_neg h]
      exact List.nil_prefix

theorem Lead.follow_append {l : Lead} {tail : Bytes} (h : l.IsTail tail) (rest : Bytes) :
    l.follow (tail ++ rest) = tail := by
  match tail, h with
  | t :: ts, ⟨hrange, hts, hlen⟩ =>
    have hmore : l.more - 1 = ts.length := by omega
    simp [follow, hrange, hmore, continuation_append hts]

theorem Lead.isTail_follow {l : Lead} {bs : Bytes} (hpos : 1 ≤ l.more)
    (hlen : (l.follow bs).length = l.more) : l.IsTail (l.follow bs) := by
  cases bs with
  | nil =>
    have : 0 = l.more := hlen
    omega
  | cons t bs =>
    rw [follow] at hlen ⊢
    by_cases h : l.low ≤ t && t ≤ l.high
    · rw [if_pos h] at hlen ⊢
      exact ⟨by simpa using h, fun u => isContinuation_of_mem, hlen⟩
    · rw [if_neg h] at hlen
      have : 0 = l.more := hlen
      omega

end Follow

def bytesOf : Item → Bytes
  | .scalar c => String.utf8EncodeChar c
  | .malformed bytes => bytes

theorem read_of_lead {b : UInt8} {l : Lead} (h : lead b = some l) (rest : Bytes) :
    read b rest = (if (l.follow rest).length = l.more
      then .scalar (Char.ofNat (codePoint b (l.follow rest))) else .malformed (b :: l.follow rest),
      rest.drop (l.follow rest).length) := by
  have hb := lead_range h
  have hnot : ¬b < 0x80 := by
    simp only [UInt8.lt_iff_toNat_lt, UInt8.reduceToNat]
    omega
  rw [read, if_neg hnot, h]

theorem bytesOf_read (b : UInt8) (rest : Bytes) :
    bytesOf (read b rest).1 ++ (read b rest).2 = b :: rest := by
  unfold read
  split
  next hb =>
    have hlt : b.toNat < 0x80 := hb
    have hc : (Char.ofNat b.toNat).toNat = b.toNat := toNat_ofNat (by omega)
    simp [bytesOf, encodeChar_one (c := Char.ofNat b.toNat) (by omega), hc]
  next =>
    cases hl : lead b with
    | none => simp [bytesOf]
    | some l =>
      have hbytes : b :: l.follow rest ++ rest.drop (l.follow rest).length = b :: rest := by
        rw [List.cons_append, List.prefix_iff_eq_append.mp (l.isPrefix_follow rest)]
      dsimp only
      split
      next hlen =>
        have htail := Lead.isTail_follow (bounds_of_lead hl).1 hlen
        rw [bytesOf, encodeChar_codePoint hl htail, hbytes]
      next => rw [bytesOf, hbytes]

section Stop
variable {a : UInt8} (ha : ¬isContinuation a) (rest : Bytes)
include ha

theorem continuation_append_stop (n : Nat) (front : Bytes) :
    continuation n (front ++ a :: rest) = continuation n front := by
  induction front generalizing n with
  | nil => cases n <;> simp [continuation, ha]
  | cons b front ih => cases n <;> simp [continuation, ih]

theorem Lead.follow_append_stop {b : UInt8} {l : Lead} (hl : lead b = some l) (front : Bytes) :
    l.follow (front ++ a :: rest) = l.follow front := by
  cases front with
  | nil =>
    have hlow := (bounds_of_lead hl).2.1
    have hhigh := high_of_lead hl
    have hnot : ¬(l.low ≤ a ∧ a ≤ l.high) := by
      simp only [isContinuation_iff, UInt8.le_iff_toNat_le, UInt8.reduceToNat] at ha hlow hhigh ⊢
      omega
    simp [follow, hnot]
  | cons b front =>
    rw [List.cons_append, follow, follow, continuation_append_stop ha]

/-- A byte that continues no sequence ends what is read before it. -/
theorem read_append_stop (b : UInt8) (front : Bytes) :
    read b (front ++ a :: rest) = ((read b front).1, (read b front).2 ++ a :: rest) := by
  unfold read
  split
  · rfl
  cases hl : lead b with
  | none => rfl
  | some l =>
    have hfollow := Lead.follow_append_stop ha rest hl front
    dsimp only
    rw [hfollow, List.drop_append_of_le_length (l.isPrefix_follow front).length_le]

/-- So reading can start anew at such a byte, whatever stands before it. -/
theorem scan_append_stop (front : Bytes) :
    utf8.scan (front ++ a :: rest) = utf8.scan front ++ utf8.scan (a :: rest) := by
  induction front using utf8.scan_induction with
  | nil => rw [List.nil_append, Reader.scan_nil, List.nil_append]
  | cons b front ih =>
    have hread : utf8.read b (front ++ a :: rest) =
        ((utf8.read b front).1, (utf8.read b front).2 ++ a :: rest) :=
      read_append_stop ha rest b front
    rw [List.cons_append, Reader.scan_cons, hread, ih, Reader.scan_cons utf8 b front,
      List.cons_append]

end Stop

/-- The bytes of a character are read as that character, whatever comes after them. -/
theorem read_encodeChar {c : Char} {b : UInt8} {tail : Bytes}
    (h : String.utf8EncodeChar c = b :: tail) (rest : Bytes) :
    read b (tail ++ rest) = (.scalar c, rest) := by
  by_cases hc : c.toNat < 0x80
  · rw [encodeChar_one hc, List.cons.injEq] at h
    obtain ⟨rfl, rfl⟩ := h
    have hb : (UInt8.ofNat c.toNat).toNat = c.toNat := toNat_byte (by omega)
    have hlt : UInt8.ofNat c.toNat < 0x80 := by
      rw [UInt8.lt_iff_toNat_lt, hb]
      exact hc
    rw [read, if_pos hlt, hb, Char.ofNat_toNat, List.nil_append]
  · obtain ⟨b', l, tail', h', hl, htail, hpoint⟩ := isSequence_encodeChar (c := c) (by omega)
    rw [h, List.cons.injEq] at h'
    obtain ⟨rfl, rfl⟩ := h'
    rw [read_of_lead hl, Lead.follow_append htail, if_pos htail.length_eq, hpoint,
      Char.ofNat_toNat, List.drop_left]

theorem encodeChar_ne_nil (c : Char) : String.utf8EncodeChar c ≠ [] := by
  intro h
  have hsize : c.utf8Size = 0 := by rw [← String.length_utf8EncodeChar, h, List.length_nil]
  exact absurd c.utf8Size_pos (by omega)

theorem undoes : utf8.Undoes bytesOf where
  read_scalar c := by
    obtain ⟨b, tail, h⟩ := List.exists_cons_of_ne_nil (encodeChar_ne_nil c)
    exact ⟨b, tail, h, read_encodeChar h⟩
  bytesOf_read := bytesOf_read

theorem encode_ofList (cs : List Char) :
    encode (String.ofList cs) = (cs.map Item.scalar).flatMap bytesOf := by
  rw [encode, String.toList_ofList, List.flatMap_map]
  rfl

theorem encode_eq (text : String) :
    encode text = (text.toList.map Item.scalar).flatMap bytesOf := by
  rw [← encode_ofList, String.ofList_toList]

theorem encode_append (text other : String) :
    encode (text ++ other) = encode text ++ encode other := by
  rw [encode, String.toList_append, List.flatMap_append]
  rfl

theorem scan_encodeChar_append (c : Char) (bs : Bytes) :
    utf8.scan (String.utf8EncodeChar c ++ bs) = .scalar c :: utf8.scan bs :=
  undoes.scan_scalar_append c bs

theorem scan_encode_append (text : String) (bs : Bytes) :
    utf8.scan (encode text ++ bs) = text.toList.map .scalar ++ utf8.scan bs := by
  rw [encode_eq]
  exact undoes.scan_spelled_append text.toList bs

theorem scan_encode (text : String) : utf8.scan (encode text) = text.toList.map .scalar := by
  rw [encode_eq]
  exact undoes.scan_spelled text.toList

theorem flatMap_bytesOf_scan (bs : Bytes) : (utf8.scan bs).flatMap bytesOf = bs :=
  undoes.flatMap_bytesOf_scan bs

@[simp] theorem isValid_encode (text : String) : utf8.isValid (encode text) := by
  rw [encode_eq]
  exact undoes.isValid_spelled text.toList

@[simp] theorem decode_encode (text : String) : utf8.decode (encode text) = text := by
  rw [encode_eq, undoes.decode_spelled, String.ofList_toList]

theorem encode_decode {bs : Bytes} (h : utf8.isValid bs) : encode (utf8.decode bs) = bs := by
  rw [encode_eq, undoes.spelled_of_isValid h]

theorem encode_injective {text other : String} (h : encode text = encode other) : text = other := by
  rw [← decode_encode text, h, decode_encode]

/-- A byte of ASCII stands for its own character. -/
theorem mem_of_mem_encode {text : String} {c : Char} (hc : c.toNat < 0x80)
    (h : UInt8.ofNat c.toNat ∈ encode text) : c ∈ text.toList := by
  obtain ⟨a, ha, hbyte⟩ := List.mem_flatMap.mp h
  have hcbyte : (UInt8.ofNat c.toNat).toNat = c.toNat := toNat_byte (by omega)
  by_cases hlow : a.toNat < 0x80
  · rw [encodeChar_one hlow, List.mem_singleton] at hbyte
    have habyte : (UInt8.ofNat a.toNat).toNat = a.toNat := toNat_byte (by omega)
    have heq : c.toNat = a.toNat := by rw [← hcbyte, hbyte, habyte]
    rwa [Char.toNat_inj.mp heq]
  · have hle := le_of_mem_encodeChar (by omega) hbyte
    omega

theorem length_encode (text : String) : (encode text).length = text.utf8ByteSize := by
  have hbytes : text.toByteArray = (encode text).toByteArray := by
    conv_lhs => rw [← String.ofList_toList (s := text), String.toByteArray_ofList]
    rfl
  rw [String.utf8ByteSize, hbytes, List.size_toByteArray]

theorem isValid_iff (bs : Bytes) : utf8.isValid bs ↔ ∃ text, bs = encode text := by
  constructor
  · intro h
    exact ⟨utf8.decode bs, (encode_decode h).symm⟩
  · rintro ⟨text, rfl⟩
    exact isValid_encode text

end Utf8
end Lexicon
