import Lexicon.Config
import Lexicon.Proofs.Binary64
import Lexicon.Proofs.Wordlist
import Mathlib.Data.List.TakeWhile

/-! Which configurations are accepted, and what is reported of the others. -/

namespace Lexicon

namespace Binary64

/-- A finite number from zero to one; a negative zero is zero. -/
def IsShare : Binary64 → Prop
  | finite negative units _ => 0 ≤ signed negative units ∧ signed negative units ≤ unitsPerOne
  | _ => False

theorem le_finite_iff {s t : Bool} {u v : Nat} (hu : Representable u) (hv : Representable v) :
    le (finite s u hu) (finite t v hv) = true ↔ signed s u ≤ signed t v := by
  simp [le, lt, isNaN]

theorem isShare_iff (x : Binary64) :
    x.IsShare ↔ le (zero false) x = true ∧ le x (ofNat 1) = true := by
  obtain ⟨hr, hone⟩ := exists_ofNat_eq (n := 1) (by norm_num)
  rw [hone, zero]
  rcases x with _ | negative | ⟨negative, units, hunits⟩
  · simp [IsShare, le, isNaN]
  · cases negative <;> simp [IsShare, le, lt, isNaN]
  · rw [le_finite_iff, le_finite_iff, Nat.one_mul]
    rfl

end Binary64

theorem trimmed_eq_empty_iff (s : String) : trimmed s = "" ↔ isBlank s = true := by
  have hall : isBlank s = true ↔ s.toList.dropWhile isWhiteSpace = [] := by
    rw [isBlank, List.all_eq_true, List.dropWhile_eq_nil_iff]
  rw [hall, trimmed, String.ofList_eq_empty_iff, List.reverse_eq_nil_iff]
  constructor
  · intro h
    -- What is left in front starts with a character that is no white space.
    by_contra hne
    have hhead := List.head_dropWhile_not isWhiteSpace hne
    rw [List.dropWhile_eq_nil_iff] at h
    rw [h _ (List.mem_reverse.mpr (List.head_mem hne))] at hhead
    cases hhead
  · intro h
    rw [h]
    rfl

namespace NoiseRule

theorem isSound_iff (f : NoiseRule) : f.isSound = true ↔ f.ratioThreshold.IsShare := by
  rw [isSound, Bool.and_eq_true, Binary64.isShare_iff]

theorem fault?_eq_none_iff_isShare (f : NoiseRule) :
    f.fault? = none ↔ f.ratioThreshold.IsShare := by
  rw [← isSound_iff, fault?]
  simp

theorem fault?_eq_some_iff (f : NoiseRule) (fault : ConfigFault) :
    f.fault? = some fault ↔
      ¬f.ratioThreshold.IsShare ∧ fault = .ratioOutOfRange f.ratioThreshold := by
  rw [← isSound_iff, fault?]
  cases f.isSound <;> simp [eq_comm]

end NoiseRule

namespace FileNames

def IsFirstBlank (names : FileNames) (kind : ListKind) : Prop :=
  trimmed (names.get kind) = "" ∧ ∃ before after,
    [.terms, .vars, .consts] = before ++ kind :: after ∧
      ∀ earlier ∈ before, trimmed (names.get earlier) ≠ ""

def AreNamed (names : FileNames) : Prop := ∀ kind, trimmed (names.get kind) ≠ ""

def AreDistinct (names : FileNames) : Prop :=
  ∀ kind other, names.get kind = names.get other → kind = other

theorem find?_isBlank_eq_some_iff (names : FileNames) (kind : ListKind) :
    (ListKind.all.find? fun kind => isBlank (names.get kind)) = some kind ↔
      names.IsFirstBlank kind := by
  simp only [List.find?_eq_some_iff_append, IsFirstBlank, ListKind.all, Ne, trimmed_eq_empty_iff,
    Bool.not_eq_true, Bool.not_eq_true']

theorem find?_isBlank_eq_none_iff (names : FileNames) :
    (ListKind.all.find? fun kind => isBlank (names.get kind)) = none ↔ names.AreNamed := by
  simp only [List.find?_eq_none, AreNamed, Ne, trimmed_eq_empty_iff, ListKind.mem_all,
    forall_const]

theorem areDistinct_iff (names : FileNames) :
    names.AreDistinct ↔
      ¬(names.terms = names.vars ∨ names.terms = names.consts ∨ names.vars = names.consts) := by
  constructor
  · rintro h (heq | heq | heq)
    · cases h .terms .vars heq
    · cases h .terms .consts heq
    · cases h .vars .consts heq
  · intro h kind other heq
    cases kind <;> cases other <;> simp_all [get]

theorem fault?_eq_none_iff (names : FileNames) :
    names.fault? = none ↔ names.AreNamed ∧ names.AreDistinct := by
  rw [← find?_isBlank_eq_none_iff, areDistinct_iff, fault?]
  cases ListKind.all.find? fun kind => isBlank (names.get kind) with
  | some kind => simp
  | none => simp

theorem fault?_eq_some_iff (names : FileNames) (fault : ConfigFault) :
    names.fault? = some fault ↔
      (∃ kind, names.IsFirstBlank kind ∧ fault = .blankName kind) ∨
        names.AreNamed ∧ ¬names.AreDistinct ∧ fault = .equalNames := by
  rw [← find?_isBlank_eq_none_iff, areDistinct_iff, not_not, fault?]
  simp only [← find?_isBlank_eq_some_iff]
  cases ListKind.all.find? fun kind => isBlank (names.get kind) with
  | some kind => simp [eq_comm]
  | none =>
    dsimp only
    split
    next h => simp [h, eq_comm]
    next h => simp [h]

end FileNames

namespace Config

structure IsSound (c : Config) : Prop where
  share : c.noise.ratioThreshold.IsShare
  named : c.names.AreNamed
  distinct : c.names.AreDistinct

/-- What is reported of a configuration: the ratio before the names, the first blank name before
equal names. -/
inductive Reports (c : Config) : ConfigFault → Prop where
  | ratio (hratio : ¬c.noise.ratioThreshold.IsShare) :
    Reports c (.ratioOutOfRange c.noise.ratioThreshold)
  | blank {kind : ListKind} (hshare : c.noise.ratioThreshold.IsShare)
    (hblank : c.names.IsFirstBlank kind) : Reports c (.blankName kind)
  | equal (hshare : c.noise.ratioThreshold.IsShare) (hnamed : c.names.AreNamed)
    (hequal : ¬c.names.AreDistinct) : Reports c .equalNames

theorem fault?_eq_none_iff (c : Config) : c.fault? = none ↔ c.IsSound := by
  rw [fault?, Option.orElse_eq_none, NoiseRule.fault?_eq_none_iff_isShare,
    FileNames.fault?_eq_none_iff]
  constructor
  · rintro ⟨hshare, hnamed, hdistinct⟩
    exact ⟨hshare, hnamed, hdistinct⟩
  · rintro ⟨hshare, hnamed, hdistinct⟩
    exact ⟨hshare, hnamed, hdistinct⟩

theorem fault?_eq_some_iff (c : Config) (fault : ConfigFault) :
    c.fault? = some fault ↔ c.Reports fault := by
  rw [fault?, Option.orElse_eq_some, NoiseRule.fault?_eq_some_iff,
    NoiseRule.fault?_eq_none_iff_isShare, FileNames.fault?_eq_some_iff]
  constructor
  · rintro (⟨hratio, rfl⟩ | ⟨hshare, ⟨kind, hblank, rfl⟩ | ⟨hnamed, hequal, rfl⟩⟩)
    · exact .ratio hratio
    · exact .blank hshare hblank
    · exact .equal hshare hnamed hequal
  · rintro (hratio | ⟨hshare, hblank⟩ | ⟨hshare, hnamed, hequal⟩)
    · exact .inl ⟨hratio, rfl⟩
    · exact .inr ⟨hshare, .inl ⟨_, hblank, rfl⟩⟩
    · exact .inr ⟨hshare, .inr ⟨hnamed, hequal, rfl⟩⟩

end Config
end Lexicon
