import Lexicon.Proofs.Windows1252

/-! Bytes of ASCII are read as characters of their own. No malformed run reaches over one, so that
the bytes on either side of it are read as if they stood alone. -/

namespace Lexicon

/-- A reader that reads each character of ASCII from its byte, and from all other bytes characters
beyond ASCII, for which it never looks behind a byte of ASCII. -/
structure Reader.KeepsAscii (r : Reader) : Prop where
  read_ascii : ∀ {c : Char}, c.toNat < 0x80 → ∀ rest,
    r.read (UInt8.ofNat c.toNat) rest = (.scalar c, rest)
  le_char : ∀ {b : UInt8}, 0x80 ≤ b.toNat → ∀ rest, 0x80 ≤ (r.read b rest).1.char.toNat
  isSuffix_read : ∀ b rest, (r.read b rest).2 <:+ rest
  read_append : ∀ b front {a : UInt8}, a.toNat < 0x80 → ∀ rest,
    r.read b (front ++ a :: rest) = ((r.read b front).1, (r.read b front).2 ++ a :: rest)

namespace Reader

@[simp] theorem decode_nil (r : Reader) : r.decode [] = "" := by
  rw [decode, scan_nil]
  rfl

theorem toList_decode_cons (r : Reader) (b : UInt8) (rest : Bytes) :
    (r.decode (b :: rest)).toList =
      (r.read b rest).1.char :: (r.decode (r.read b rest).2).toList := by
  rw [decode, decode, scan_cons, String.toList_ofList, String.toList_ofList, List.map_cons]

namespace KeepsAscii
variable {r : Reader} (h : r.KeepsAscii) {c : Char} (hc : c.toNat < 0x80)
include h hc

theorem eq_of_char_read {b : UInt8} {rest : Bytes} (hread : (r.read b rest).1.char = c) :
    b = UInt8.ofNat c.toNat := by
  by_cases hb : b.toNat < 0x80
  · have hnat : (Char.ofNat b.toNat).toNat = b.toNat := Utf8.toNat_ofNat (by omega)
    have hascii := h.read_ascii (c := Char.ofNat b.toNat) (by omega) rest
    rw [hnat, UInt8.ofNat_toNat] at hascii
    rw [hascii] at hread
    rw [← hread, Item.char, hnat, UInt8.ofNat_toNat]
  · have hle := h.le_char (Nat.not_lt.mp hb) rest
    rw [hread] at hle
    omega

theorem not_mem_decode {bs : Bytes} (hbs : UInt8.ofNat c.toNat ∉ bs) :
    c ∉ (r.decode bs).toList := by
  induction bs using r.scan_induction with
  | nil => simp
  | cons b rest ih =>
    rw [List.mem_cons, not_or] at hbs
    have hrest := ih fun hmem => hbs.2 ((h.isSuffix_read b rest).subset hmem)
    rw [Reader.toList_decode_cons, List.mem_cons, not_or]
    exact ⟨fun hread => hbs.1 (h.eq_of_char_read hc hread.symm).symm, hrest⟩

theorem toList_decode_cons (rest : Bytes) :
    (r.decode (UInt8.ofNat c.toNat :: rest)).toList = c :: (r.decode rest).toList := by
  rw [Reader.toList_decode_cons, h.read_ascii hc]
  rfl

/-- What stands in front of a byte of ASCII is read as if it ended there. -/
theorem toList_decode_append (front rest : Bytes) :
    (r.decode (front ++ UInt8.ofNat c.toNat :: rest)).toList =
      (r.decode front).toList ++ c :: (r.decode rest).toList := by
  have hbyte : (UInt8.ofNat c.toNat).toNat < 0x80 := by
    rw [Utf8.toNat_byte (by omega)]
    exact hc
  induction front using r.scan_induction with
  | nil =>
    rw [List.nil_append, h.toList_decode_cons hc, decode_nil]
    rfl
  | cons b front ih =>
    rw [List.cons_append, Reader.toList_decode_cons, h.read_append b front hbyte, ih,
      Reader.toList_decode_cons, List.cons_append]

theorem head?_decode {bs : Bytes} (hbs : bs.head? ≠ some (UInt8.ofNat c.toNat)) :
    (r.decode bs).toList.head? ≠ some c := by
  cases bs with
  | nil => simp
  | cons b rest =>
    rw [Reader.toList_decode_cons, List.head?_cons, Ne, Option.some_inj]
    intro hread
    exact hbs (congrArg some (h.eq_of_char_read hc hread))

/-- A text is split at a character of ASCII where its bytes are split at the byte of it. The
induction is on the length of the bytes behind the first such byte. -/
theorem splitOn_decode (bs : Bytes) :
    (r.decode bs).toList.splitOn c =
      (bs.splitOn (UInt8.ofNat c.toNat)).map fun piece => (r.decode piece).toList := by
  induction hn : bs.length using Nat.strongRecOn generalizing bs with
  | _ n ih =>
    by_cases hmem : UInt8.ofNat c.toNat ∈ bs
    · obtain ⟨front, rest, rfl, hfront⟩ := List.eq_append_cons_of_mem hmem
      have hlt : rest.length < n := by
        rw [List.length_append, List.length_cons] at hn
        omega
      rw [h.toList_decode_append hc,
        List.splitOn_append_cons_self_of_not_mem (h.not_mem_decode hc hfront), ih _ hlt rest rfl,
        List.splitOn_append_cons_self_of_not_mem hfront, List.map_cons]
    · rw [List.splitOn_eq_singleton (h.not_mem_decode hc hmem), List.splitOn_eq_singleton hmem]
      rfl

end KeepsAscii
end Reader

namespace Utf8

theorem le_char_read {b : UInt8} (hb : 0x80 ≤ b.toNat) (rest : Bytes) :
    0x80 ≤ (read b rest).1.char.toNat := by
  have hbytes := bytesOf_read b rest
  cases hitem : (read b rest).1 with
  | malformed =>
    change 0x80 ≤ '\uFFFD'.toNat
    decide
  | scalar c =>
    by_contra hlow
    have hc : c.toNat < 0x80 := Nat.not_le.mp hlow
    rw [hitem, bytesOf, encodeChar_one hc, List.singleton_append, List.cons.injEq] at hbytes
    rw [← hbytes.1, toNat_byte (by omega)] at hb
    omega

theorem isSuffix_read (b : UInt8) (rest : Bytes) : (read b rest).2 <:+ rest := by
  have hsuffix : (read b rest).2 <:+ b :: rest := ⟨_, bytesOf_read b rest⟩
  rcases List.suffix_cons_iff.mp hsuffix with hall | hrest
  · have hle := length_read_le b rest
    rw [hall, List.length_cons] at hle
    omega
  · exact hrest

theorem keepsAscii : utf8.KeepsAscii where
  read_ascii hc := read_encodeChar (encodeChar_one hc)
  le_char := le_char_read
  isSuffix_read := isSuffix_read
  read_append b front a ha rest := by
    have hstop : ¬isContinuation a := by
      rw [isContinuation_iff]
      omega
    exact read_append_stop hstop rest b front

end Utf8

theorem Windows1252.keepsAscii : windows1252.KeepsAscii where
  read_ascii {c} hc rest := by
    have hbyte : (UInt8.ofNat c.toNat).toNat = c.toNat := Utf8.toNat_byte (by omega)
    change (Item.scalar (char (UInt8.ofNat c.toNat)), rest) = _
    rw [char_of_lt (by omega), hbyte, Char.ofNat_toNat]
  le_char hb _ := le_char hb
  isSuffix_read _ rest := List.suffix_refl rest
  read_append _ _ _ _ _ := rfl

end Lexicon
