import Lexicon.Proofs.Utf8
import Lexicon.Proofs.Wordlist

/-! The order of texts by code points is the order of their bytes in UTF-8. So a list is in
ascending order in both senses at once, and whoever sorts by bytes gets the same list. -/

namespace Lexicon

def codePoints (s : String) : List Nat := s.toList.map Char.toNat

namespace Utf8

theorem cons_lt_cons_iff_toNat {b b' : UInt8} {bs bs' : Bytes} :
    b :: bs < b' :: bs' ↔ b.toNat < b'.toNat ∨ b.toNat = b'.toNat ∧ bs < bs' := by
  rw [List.cons_lt_cons_iff, UInt8.lt_iff_toNat_lt, UInt8.toNat_inj]

/-- Where the sequences of characters become longer, and the leading byte from which on they are. -/
def longerFrom : List (Nat × Nat) := [(0x80, 0xC0), (0x800, 0xE0), (0x10000, 0xF0)]

/-- The leading byte tells how long a sequence is. -/
theorem exists_head_encodeChar (c : Char) :
    ∃ b tail, String.utf8EncodeChar c = b :: tail ∧
      ∀ bound ∈ longerFrom, c.toNat < bound.1 ↔ b.toNat < bound.2 := by
  have hvalid := toNat_valid c
  simp only [longerFrom, List.forall_mem_cons, List.not_mem_nil, false_implies, implies_true,
    and_true]
  by_cases h1 : c.toNat < 0x80
  · refine ⟨_, _, encodeChar_one h1, ?_⟩
    rw [UInt8.toNat_ofNat']
    omega
  by_cases h2 : c.toNat < 0x800
  · refine ⟨_, _, encodeChar_two (by omega) h2, ?_⟩
    rw [UInt8.toNat_ofNat']
    omega
  by_cases h3 : c.toNat < 0x10000
  · refine ⟨_, _, encodeChar_three (by omega) h3, ?_⟩
    rw [UInt8.toNat_ofNat']
    omega
  · refine ⟨_, _, encodeChar_four (by omega), ?_⟩
    rw [UInt8.toNat_ofNat']
    omega

/-- What is left of a number for the leading byte once its last digits to the base 64 are taken. -/
def leadPart : Nat → Nat → Nat
  | 0, n => n
  | more + 1, n => leadPart more (n / 64)

/-- The digits of a number to the base 64 in some continuation bytes, behind a leading byte that
holds what is left of it. -/
def spell (floor : Nat) : Nat → Nat → Bytes
  | 0, n => [UInt8.ofNat (floor + n)]
  | more + 1, n => spell floor more (n / 64) ++ [UInt8.ofNat (0x80 + n % 64)]

/-- Of two numbers spelled at the same length, the lower one has the lower bytes. The first digit
that differs decides, so the induction takes the last one away. -/
theorem spell_append_lt {floor more m n : Nat} (hlt : m < n)
    (hfit : floor + leadPart more n < 0x100) (bs bs' : Bytes) :
    spell floor more m ++ bs < spell floor more n ++ bs' := by
  induction more generalizing m n bs bs' with
  | zero =>
    rw [leadPart] at hfit
    rw [spell, spell, List.singleton_append, List.singleton_append, cons_lt_cons_iff_toNat,
      toNat_byte hfit, toNat_byte (by omega)]
    exact .inl (by omega)
  | succ more ih =>
    rw [spell, spell, List.append_assoc, List.append_assoc]
    rcases Nat.lt_or_ge (m / 64) (n / 64) with hhigh | hhigh
    · exact ih hhigh hfit _ _
    · have hsame : m / 64 = n / 64 := by omega
      rw [hsame]
      apply List.append_left_lt
      rw [List.singleton_append, List.singleton_append, cons_lt_cons_iff_toNat,
        toNat_byte (by omega), toNat_byte (by omega)]
      exact .inl (by omega)

section Characters
variable {c d : Char}

theorem encodeChar_eq_spell_two (hlow : 0x80 ≤ c.toNat) (hhigh : c.toNat < 0x800) :
    String.utf8EncodeChar c = spell 0xC0 1 c.toNat := by
  have h0 : c.toNat / 64 % 32 + 0xC0 = 0xC0 + c.toNat / 64 := by omega
  rw [encodeChar_two hlow hhigh, h0, Nat.add_comm (c.toNat % 64)]
  rfl

theorem encodeChar_eq_spell_three (hlow : 0x800 ≤ c.toNat) (hhigh : c.toNat < 0x10000) :
    String.utf8EncodeChar c = spell 0xE0 2 c.toNat := by
  have h0 : c.toNat / 4096 % 16 + 0xE0 = 0xE0 + c.toNat / 64 / 64 := by omega
  rw [encodeChar_three hlow hhigh, h0, Nat.add_comm (c.toNat / 64 % 64),
    Nat.add_comm (c.toNat % 64)]
  rfl

theorem encodeChar_eq_spell_four (hlow : 0x10000 ≤ c.toNat) :
    String.utf8EncodeChar c = spell 0xF0 3 c.toNat := by
  have hvalid := toNat_valid c
  have h0 : c.toNat / 262144 % 8 + 0xF0 = 0xF0 + c.toNat / 64 / 64 / 64 := by omega
  have h1 : c.toNat / 4096 % 64 + 0x80 = 0x80 + c.toNat / 64 / 64 % 64 := by omega
  rw [encodeChar_four hlow, h0, h1, Nat.add_comm (c.toNat / 64 % 64), Nat.add_comm (c.toNat % 64)]
  rfl

/-- A character from one of the bounds on is spelled above every character below it. -/
theorem encodeChar_append_lt_of_longer {bound : Nat × Nat} (hbound : bound ∈ longerFrom)
    (hc : c.toNat < bound.1) (hd : bound.1 ≤ d.toNat) (bs bs' : Bytes) :
    String.utf8EncodeChar c ++ bs < String.utf8EncodeChar d ++ bs' := by
  obtain ⟨b, tail, hbytes, hlead⟩ := exists_head_encodeChar c
  obtain ⟨b', tail', hbytes', hlead'⟩ := exists_head_encodeChar d
  have hb : b.toNat < bound.2 := (hlead bound hbound).mp hc
  have hb' : ¬b'.toNat < bound.2 := mt (hlead' bound hbound).mpr (Nat.not_lt.mpr hd)
  rw [hbytes, hbytes', List.cons_append, List.cons_append, cons_lt_cons_iff_toNat]
  exact .inl (by omega)

/-- A lower character is spelled by lower bytes, whatever comes after them. -/
theorem encodeChar_append_lt (hlt : c.toNat < d.toNat) (bs bs' : Bytes) :
    String.utf8EncodeChar c ++ bs < String.utf8EncodeChar d ++ bs' := by
  have hvalid := toNat_valid d
  by_cases hlonger : ∃ bound ∈ longerFrom, c.toNat < bound.1 ∧ bound.1 ≤ d.toNat
  · obtain ⟨bound, hbound, hc, hd⟩ := hlonger
    exact encodeChar_append_lt_of_longer hbound hc hd bs bs'
  simp only [longerFrom, List.exists_mem_cons_iff, List.not_mem_nil, false_and, exists_false,
    or_false] at hlonger
  by_cases h1 : d.toNat < 0x80
  · have hd : UInt8.ofNat c.toNat :: bs < UInt8.ofNat d.toNat :: bs' := by
      rw [cons_lt_cons_iff_toNat, toNat_byte (by omega), toNat_byte (by omega)]
      exact .inl hlt
    rwa [encodeChar_one h1, encodeChar_one (by omega)]
  by_cases h2 : d.toNat < 0x800
  · rw [encodeChar_eq_spell_two (by omega) (by omega), encodeChar_eq_spell_two (by omega) h2]
    exact spell_append_lt hlt (by simp only [leadPart]; omega) bs bs'
  by_cases h3 : d.toNat < 0x10000
  · rw [encodeChar_eq_spell_three (by omega) (by omega), encodeChar_eq_spell_three (by omega) h3]
    exact spell_append_lt hlt (by simp only [leadPart]; omega) bs bs'
  · rw [encodeChar_eq_spell_four (by omega), encodeChar_eq_spell_four (by omega)]
    exact spell_append_lt hlt (by simp only [leadPart]; omega) bs bs'

end Characters

/-- A lower text has lower bytes. The first character that differs decides, or the end of a text
that the other one goes on from. -/
theorem flatMap_encodeChar_lt {cs ds : List Char} (h : cs < ds) :
    cs.flatMap String.utf8EncodeChar < ds.flatMap String.utf8EncodeChar := by
  induction h with
  | nil =>
    rename_i d ds
    obtain ⟨b, tail, hbytes⟩ := List.exists_cons_of_ne_nil (encodeChar_ne_nil d)
    rw [List.flatMap_nil, List.flatMap_cons, hbytes, List.cons_append]
    exact List.nil_lt_cons b _
  | cons _ ih =>
    rw [List.flatMap_cons, List.flatMap_cons]
    exact List.append_left_lt ih
  | rel hcd =>
    rw [List.flatMap_cons, List.flatMap_cons]
    exact encodeChar_append_lt hcd _ _

theorem encode_lt_encode {a b : String} (h : a < b) : encode a < encode b :=
  flatMap_encodeChar_lt (String.lt_iff_toList_lt.mp h)

theorem encode_lt_iff {a b : String} : encode a < encode b ↔ a < b := by
  have hasymm : Std.Asymm fun b b' : UInt8 => b < b' := ⟨fun _ _ => UInt8.lt_asymm⟩
  refine ⟨fun h => ?_, encode_lt_encode⟩
  rcases lt_trichotomy a b with hlt | rfl | hgt
  · exact hlt
  · exact absurd h (List.lt_irrefl _)
  · exact absurd (encode_lt_encode hgt) (List.lt_asymm h)

end Utf8

theorem codePoints_lt_iff {a b : String} : codePoints a < codePoints b ↔ a < b := by
  have hmono : StrictMono codePoints := fun a b h =>
    List.map_lt (fun _ _ => id) (String.lt_iff_toList_lt.mp h)
  exact hmono.lt_iff_lt

def SortedByBytes (terms : List String) : Prop :=
  terms.Pairwise fun a b => Utf8.encode a ≤ Utf8.encode b

instance (terms : List String) : Decidable (SortedByBytes terms) :=
  inferInstanceAs (Decidable (terms.Pairwise _))

namespace SortedByBytes
variable {terms sorted : List String} (h : SortedByBytes sorted)
include h

theorem pairwise_le : sorted.Pairwise (· ≤ ·) := by
  refine h.imp fun {a b} hab => ?_
  rw [← String.not_lt, ← Utf8.encode_lt_iff]
  exact hab

/-- Sorting and dropping repeats leaves one list, whatever the sort does to equal terms. -/
theorem dropRepeats_eq (hperm : sorted.Perm terms) : dropRepeats sorted = ascending terms := by
  refine eq_of_ascending (pairwise_dropRepeats h.pairwise_le) (pairwise_ascending terms) ?_
  intro term
  rw [mem_dropRepeats, hperm.mem_iff, mem_ascending]

/-- Of a set nothing is repeated, so that sorting alone will do. -/
theorem eq_toList {set : Vocabulary} (hperm : sorted.Perm set.toList) : sorted = set.toList := by
  have hnodup : sorted.Nodup := hperm.nodup_iff.mpr (set.pairwise_toList.imp fun hab => hab.ne)
  have hlt : sorted.Pairwise (· < ·) :=
    (h.pairwise_le.and hnodup).imp fun hab => lt_of_le_of_ne hab.1 hab.2
  exact eq_of_ascending hlt set.pairwise_toList fun term => hperm.mem_iff

end SortedByBytes

theorem toList_ofTerms (terms : List String) :
    (Vocabulary.ofTerms terms).toList = ascending terms := by
  refine eq_of_ascending (Vocabulary.pairwise_toList _) (pairwise_ascending terms) fun term => ?_
  rw [Std.ExtTreeSet.mem_toList, Vocabulary.mem_ofTerms_iff, mem_ascending]

/-- The entries of a list are the given terms, each once, in ascending order of code points and of
bytes, which are the same order. Sorting the terms by bytes and dropping repeated neighbours gives
this list, and so does sorting the members of their set, in whatever order these are come upon. -/
theorem ascending_by_code_points_and_bytes (terms : List String) :
    (∀ term, term ∈ ascending terms ↔ term ∈ terms) ∧ (ascending terms).Nodup ∧
    (ascending terms).Pairwise (fun a b => codePoints a < codePoints b) ∧
    (ascending terms).Pairwise (fun a b => Utf8.encode a < Utf8.encode b) ∧
    (∀ a b, codePoints a < codePoints b ↔ Utf8.encode a < Utf8.encode b) ∧
    (∀ sorted, sorted.Perm terms → SortedByBytes sorted → dropRepeats sorted = ascending terms) ∧
    (Vocabulary.ofTerms terms).toList = ascending terms ∧
    ∀ sorted, sorted.Perm (Vocabulary.ofTerms terms).toList → SortedByBytes sorted →
      sorted = ascending terms := by
  have hascending := pairwise_ascending terms
  refine ⟨mem_ascending terms, hascending.imp fun hab => hab.ne,
    hascending.imp codePoints_lt_iff.mpr, hascending.imp Utf8.encode_lt_iff.mpr, ?_, ?_,
    toList_ofTerms terms, ?_⟩
  · intro a b
    rw [codePoints_lt_iff, Utf8.encode_lt_iff]
  · intro sorted hperm hsorted
    exact hsorted.dropRepeats_eq hperm
  · intro sorted hperm hsorted
    rw [hsorted.eq_toList hperm, toList_ofTerms]

/-- A character of four bytes stands behind all of three, though its code units in UTF-16 do not. -/
theorem last_plane_sorted_last :
    let terms := ["😀", "\uFFFF", "z", "ß", "", "z", "zz"]
    ascending terms = ["", "z", "zz", "ß", "\uFFFF", "😀"] ∧
      codePoints "\uFFFF" < codePoints "😀" ∧ Utf8.encode "\uFFFF" < Utf8.encode "😀" := by
  intro terms
  obtain ⟨-, -, -, -, hsame, hsort, -, -⟩ := ascending_by_code_points_and_bytes terms
  have hperm : ["", "z", "z", "zz", "ß", "\uFFFF", "😀"].Perm terms := by decide
  have hsorted : SortedByBytes ["", "z", "z", "zz", "ß", "\uFFFF", "😀"] := by decide +kernel
  have hlt : codePoints "\uFFFF" < codePoints "😀" := by decide +kernel
  exact ⟨(hsort _ hperm hsorted).symm, hlt, (hsame _ _).mp hlt⟩

end Lexicon
