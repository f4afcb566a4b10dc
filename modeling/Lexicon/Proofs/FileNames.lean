import Lexicon.Proofs.Config
import Lexicon.Proofs.Delivery

/-! Names that are accepted for the three lists are different texts. They are different files too if
no slash is in them, for then each is a name in the output directory. -/

namespace Lexicon

def IsPlainName (name : String) : Prop := '/' ∉ name.toList

theorem slash_not_mem_of_isPlainName {name : String} (h : IsPlainName name) :
    Path.slash ∉ (Path.ofString name).bytes :=
  fun hmem => h (Utf8.mem_of_mem_encode (by decide) hmem)

/-- Behind one directory, plain names only differ in the last segment. -/
theorem exists_segments_of_isPlainName (directory : Path) :
    ∃ before absolute, ∀ name : String, IsPlainName name →
      (directory.join (.ofString name)).segments = before ++ [(Path.ofString name).bytes] ∧
        (directory.join (.ofString name)).isAbsolute = absolute := by
  have hrelative (name : String) (h : IsPlainName name) :
      (Path.ofString name).isAbsolute = false := by
    rw [Path.isAbsolute, beq_eq_false_iff_ne]
    exact fun hhead => slash_not_mem_of_isPlainName h (List.mem_of_mem_head? hhead)
  have hjoin (before : Bytes) (name : String) (h : IsPlainName name) :
      (before ++ Path.slash :: (Path.ofString name).bytes).splitOn Path.slash =
        before.splitOn Path.slash ++ [(Path.ofString name).bytes] := by
    rw [List.splitOn_append_cons_self, List.splitOn_eq_singleton (slash_not_mem_of_isPlainName h)]
  by_cases hnil : directory.bytes = []
  · refine ⟨[], false, fun name h => ?_⟩
    have heq : directory.join (.ofString name) = .ofString name := by
      simp [Path.join, hrelative name h, hnil]
    rw [heq, Path.segments, List.splitOn_eq_singleton (slash_not_mem_of_isPlainName h)]
    exact ⟨rfl, hrelative name h⟩
  · have hhead (rest : Bytes) :
        Path.isAbsolute ⟨directory.bytes ++ rest⟩ = directory.isAbsolute := by
      rw [Path.isAbsolute, Path.isAbsolute, List.head?_append_of_ne_nil _ hnil]
    by_cases hlast : directory.bytes.getLast? = some Path.slash
    · obtain ⟨start, hstart⟩ := List.getLast?_eq_some_iff.mp hlast
      refine ⟨start.splitOn Path.slash, directory.isAbsolute, fun name h => ?_⟩
      have heq : directory.join (.ofString name) =
          ⟨directory.bytes ++ (Path.ofString name).bytes⟩ := by
        simp [Path.join, hrelative name h, hlast]
      rw [heq, hhead, Path.segments, ← hjoin start name h, hstart, List.append_assoc]
      exact ⟨rfl, rfl⟩
    · refine ⟨directory.bytes.splitOn Path.slash, directory.isAbsolute, fun name h => ?_⟩
      have heq : directory.join (.ofString name) =
          ⟨directory.bytes ++ Path.slash :: (Path.ofString name).bytes⟩ := by
        simp [Path.join, hrelative name h, hnil, hlast]
      rw [heq, hhead, Path.segments, hjoin directory.bytes name h]
      exact ⟨rfl, rfl⟩

theorem FileNames.eq_of_get_eq {names : FileNames} (h : names.fault? = none) {kind other : ListKind}
    (heq : names.get kind = names.get other) : kind = other := by
  obtain ⟨-, hdistinct⟩ := (fault?_eq_none_iff names).mp h
  exact hdistinct kind other heq

/-- Accepted names that are plain lead to different locations, if each of them leads to an entry. -/
theorem targetLocation_injective {names : FileNames} (h : names.fault? = none)
    (hplain : ∀ kind, IsPlainName (names.get kind)) {directory : Path}
    (hname : ∀ kind, Path.IsName (Path.ofString (names.get kind)).bytes)
    (workingDirectory : Location) {kind other : ListKind}
    (heq : targetLocation workingDirectory directory names kind =
      targetLocation workingDirectory directory names other) : kind = other := by
  obtain ⟨before, absolute, hpath⟩ := exists_segments_of_isPlainName directory
  have hlocation (kind : ListKind) : targetLocation workingDirectory directory names kind =
      before.foldl Location.step (if absolute then [] else workingDirectory) ++
        [(Path.ofString (names.get kind)).bytes] := by
    obtain ⟨hsegments, habsolute⟩ := hpath (names.get kind) (hplain kind)
    obtain ⟨hidle, hup⟩ := hname kind
    rw [targetLocation, Path.location, targetPath, hsegments, habsolute, List.foldl_append,
      List.foldl_cons, List.foldl_nil, Location.step, hidle, if_neg hup]
    rfl
  rw [hlocation kind, hlocation other] at heq
  have hbytes := (List.append_inj' heq rfl).2
  rw [List.cons.injEq] at hbytes
  exact FileNames.eq_of_get_eq h (Utf8.encode_injective hbytes.1)

/-- Accepted names that are plain never share a location once the lists are written. -/
theorem targetLocation_injective_of_deliver {directory : Path} {names : FileNames}
    {lists : Wordlists} {d : Disk} (h : (deliver directory names lists d).failure = none)
    (hnames : names.fault? = none) (hplain : ∀ kind, IsPlainName (names.get kind))
    (workingDirectory : Location) {kind other : ListKind}
    (heq : targetLocation workingDirectory directory names kind =
      targetLocation workingDirectory directory names other) : kind = other := by
  obtain ⟨d', -, -, hdeliver⟩ := exists_of_deliver h
  rw [hdeliver] at h
  refine targetLocation_injective hnames hplain (fun kind => ?_) workingDirectory heq
  obtain ⟨before, name, hsegments, hname⟩ := exists_name_of_deliverLists h kind.mem_all
  obtain ⟨before', _, hpath⟩ := exists_segments_of_isPlainName directory
  rw [targetPath, (hpath (names.get kind) (hplain kind)).1] at hsegments
  have hlast := (List.append_inj' hsegments rfl).2
  rw [List.cons.injEq] at hlast
  rw [hlast.1]
  exact hname

end Lexicon
