import Lexicon.Files.Disk

/-! Where paths lead, and what putting a file in some place leaves as it is. A path that leads
anywhere leads where its text says, and leads there still when files have been put beside it. -/

namespace Lexicon

/-- What a computation in two parts returns is what the second part returns on the first. -/
theorem exists_of_bind_eq_ok {ε α β : Type} {x : Except ε α} {f : α → Except ε β} {b : β}
    (h : (x >>= f) = .ok b) : ∃ a, x = .ok a ∧ f a = .ok b := by
  cases x with
  | error => cases h
  | ok a => exact ⟨a, rfl, h⟩

namespace Path

def IsName (segment : Bytes) : Prop := isIdle segment = false ∧ segment ≠ [dot, dot]

/-- A path that does not end in a slash ends in a segment that is not empty. -/
theorem segments_eq_concat {p : Path} (hne : p.bytes ≠ []) (hlast : p.bytes.getLast? ≠ some slash) :
    ∃ before name, p.segments = before ++ [name] ∧ name ≠ [] := by
  unfold segments
  by_cases hmem : slash ∈ p.bytes
  · obtain ⟨after, before, hrev, hafter⟩ :=
      List.eq_append_cons_of_mem (List.mem_reverse.mpr hmem)
    have hbytes : p.bytes = before.reverse ++ slash :: after.reverse := by
      rw [← List.reverse_reverse p.bytes, hrev]
      simp
    have hafter' : slash ∉ after.reverse := by simpa using hafter
    refine ⟨before.reverse.splitOn slash, after.reverse, ?_, ?_⟩
    · rw [hbytes, List.splitOn_append_cons_self, List.splitOn_eq_singleton hafter']
    · rintro hnil
      rw [hbytes, hnil] at hlast
      simp at hlast
  · exact ⟨[], p.bytes, by rw [List.splitOn_eq_singleton hmem, List.nil_append], hne⟩

end Path

def Location.step (l : Location) (segment : Bytes) : Location :=
  if Path.isIdle segment then l
  else if segment = [Path.dot, Path.dot] then l.dropLast
  else l ++ [segment]

/-- The location that the text of a path spells, seen from a working directory. -/
def Path.location (workingDirectory : Location) (p : Path) : Location :=
  p.segments.foldl Location.step (if p.isAbsolute then [] else workingDirectory)

namespace Disk
variable {d : Disk} {l : Location} {segment : Bytes}

theorem enter_eq_ok_iff {l' : Location} :
    d.enter l segment = .ok l' ↔ l' = Location.step l segment ∧ d.entry? l = some .directory ∧
      (Path.IsName segment →
        segment.length ≤ nameLimit ∧ (d.entry? (l ++ [segment])).isSome) := by
  unfold enter Location.step Path.IsName
  cases hentry : d.entry? l with
  | none => simp
  | some entry =>
    cases entry with
    | file => simp
    | directory =>
      cases hidle : Path.isIdle segment with
      | true => simp [eq_comm (a := l)]
      | false =>
        by_cases hup : segment = [Path.dot, Path.dot]
        · simp [hup, eq_comm (a := l.dropLast)]
        · by_cases hlong : nameLimit < segment.length
          · simp [hup, hlong, Nat.not_le.mpr hlong]
          · by_cases hsome : (d.entry? (l ++ [segment])).isSome
            · simp [hup, hlong, hsome, Nat.not_lt.mp hlong, eq_comm (a := l ++ [segment])]
            · simp [hup, hlong, hsome]

theorem enter_nil (h : d.entry? l = some .directory) : d.enter l [] = .ok l := by
  refine enter_eq_ok_iff.mpr ⟨rfl, h, fun hname => ?_⟩
  exact absurd hname.1 (by decide)

theorem entry?_put {e : Entry} (hl : l ≠ []) (l' : Location) :
    Disk.entry? (d.put l e) l' = if l = l' then some e else d.entry? l' := by
  unfold put entry?
  by_cases hnil : l' = []
  · simp [hnil, hl]
  · simp only [hnil, if_false]
    rw [Std.ExtTreeMap.getElem?_insert]
    simp

theorem foldlM_enter_eq_ok {segments : List Bytes} {l' : Location}
    (h : segments.foldlM d.enter l = .ok l') : l' = segments.foldl Location.step l := by
  induction segments generalizing l with
  | nil => exact (Except.ok.inj h).symm
  | cons segment segments ih =>
    rw [List.foldlM_cons] at h
    obtain ⟨next, hnext, hrest⟩ := exists_of_bind_eq_ok h
    rw [List.foldl_cons, ← (enter_eq_ok_iff.mp hnext).1]
    exact ih hrest

theorem location_of_resolve {p : Path} (h : d.resolve p = .ok l) :
    l = p.location d.workingDirectory := by
  unfold resolve at h
  split at h
  · cases h
  · exact foldlM_enter_eq_ok h

/-- Where there was a directory there still is one, and where there was an entry there still is
some. -/
structure Grows (d d' : Disk) : Prop where
  workingDirectory : d'.workingDirectory = d.workingDirectory
  directory : ∀ l, d.entry? l = some .directory → d'.entry? l = some .directory
  entry : ∀ l, (d.entry? l).isSome → (d'.entry? l).isSome

theorem Grows.refl (d : Disk) : Grows d d := ⟨rfl, fun _ => id, fun _ => id⟩

/-- A file may be put anywhere but in the place of a directory. -/
theorem Grows.of_entry {d' : Disk} {e : Entry} (hworking : d'.workingDirectory = d.workingDirectory)
    (hl : d.entry? l ≠ some .directory)
    (hentry : ∀ l', d'.entry? l' = if l = l' then some e else d.entry? l') : Grows d d' where
  workingDirectory := hworking
  directory l' hl' := by
    rw [hentry, if_neg]
    · exact hl'
    · rintro rfl
      exact hl hl'
  entry l' hl' := by
    rw [hentry]
    split
    · rfl
    · exact hl'

theorem Grows.trans {d' d'' : Disk} (h : Grows d d') (h' : Grows d' d'') : Grows d d'' where
  workingDirectory := h'.workingDirectory.trans h.workingDirectory
  directory l hl := h'.directory l (h.directory l hl)
  entry l hl := h'.entry l (h.entry l hl)

/-- Files have been put, perhaps in the place of others, and directories are as they were. -/
structure AddsFiles (d d' : Disk) : Prop extends Grows d d' where
  workingPath : d'.workingPath = d.workingPath
  old_directory : ∀ l, d'.entry? l = some .directory → d.entry? l = some .directory

theorem AddsFiles.refl (d : Disk) : AddsFiles d d := ⟨Grows.refl d, rfl, fun _ => id⟩

theorem AddsFiles.trans {d' d'' : Disk} (h : AddsFiles d d') (h' : AddsFiles d' d'') :
    AddsFiles d d'' where
  toGrows := h.toGrows.trans h'.toGrows
  workingPath := h'.workingPath.trans h.workingPath
  old_directory l hl := h.old_directory l (h'.old_directory l hl)

section Grows
variable {d' : Disk} (h : Grows d d')
include h

theorem enter_of_grows {l' : Location} (hl : d.enter l segment = .ok l') :
    d'.enter l segment = .ok l' := by
  obtain ⟨hstep, hdirectory, hname⟩ := enter_eq_ok_iff.mp hl
  refine enter_eq_ok_iff.mpr ⟨hstep, h.directory l hdirectory, ?_⟩
  intro hsegment
  exact ⟨(hname hsegment).1, h.entry _ (hname hsegment).2⟩

theorem foldlM_enter_of_grows {segments : List Bytes} {l' : Location}
    (hl : segments.foldlM d.enter l = .ok l') : segments.foldlM d'.enter l = .ok l' := by
  induction segments generalizing l with
  | nil => exact hl
  | cons segment segments ih =>
    rw [List.foldlM_cons] at hl ⊢
    obtain ⟨next, hnext, hrest⟩ := exists_of_bind_eq_ok hl
    rw [enter_of_grows h hnext]
    exact ih hrest

theorem walk_of_grows {absolute : Bool} {segments : List Bytes}
    (hl : d.walk absolute segments = .ok l) : d'.walk absolute segments = .ok l := by
  unfold walk at hl ⊢
  rw [h.workingDirectory]
  exact foldlM_enter_of_grows h hl

theorem resolve_of_grows {p : Path} (hl : d.resolve p = .ok l) : d'.resolve p = .ok l := by
  unfold resolve at hl ⊢
  split at hl
  · cases hl
  · exact walk_of_grows h hl

theorem target_of_grows {p : Path} {t : Target} (ht : d.target p = .ok t) :
    d'.target p = .ok t := by
  unfold target at ht ⊢
  split at ht
  · cases ht
  split at ht
  · exact ht
  obtain ⟨start, hwalk, ht⟩ := exists_of_bind_eq_ok ht
  obtain ⟨here, henter, ht⟩ := exists_of_bind_eq_ok ht
  dsimp only [bind, Except.bind]
  rw [walk_of_grows h hwalk]
  dsimp only
  rw [enter_of_grows h henter]
  exact ht

end Grows

theorem bytes_ne_nil_of_refused?_eq_none {p : Path} (h : refused? p = none) : p.bytes ≠ [] := by
  intro hnil
  simp [refused?, hnil] at h

theorem contains_nul_of_refused?_eq_none {p : Path} (h : refused? p = none) :
    p.bytes.contains 0 = false := by
  rw [Bool.eq_false_iff]
  intro hnul
  rw [refused?, if_pos (by simpa using hnul)] at h
  cases h

/-- A path that names an entry leads to the directory of that entry, and has nothing but slashes
behind its name. -/
theorem exists_segments_of_target {p : Path} {name : Bytes} {slash : Bool}
    (h : d.target p = .ok (.entry l name slash)) :
    ∃ before after, refused? p = none ∧ p.segments = before ++ name :: after ∧
      (∀ s ∈ after, s = []) ∧ d.walk p.isAbsolute before = .ok l ∧
      d.entry? l = some .directory ∧ Path.IsName name ∧
      slash = (p.bytes.getLast? == some Path.slash) := by
  unfold target at h
  split at h
  · cases h
  next hrefused =>
    split at h
    · cases h
    next last back hback =>
      obtain ⟨start, hwalk, h⟩ := exists_of_bind_eq_ok h
      obtain ⟨here, henter, h⟩ := exists_of_bind_eq_ok h
      split at h
      · cases h
      next hdots =>
        obtain ⟨rfl, rfl, rfl⟩ := Target.entry.inj (Except.ok.inj h)
        obtain ⟨hstart, hdirectory, -⟩ := enter_eq_ok_iff.mp henter
        obtain rfl : here = start := hstart
        have hsegments : p.segments =
            back.reverse ++ last :: (p.segments.reverse.takeWhile (· == [])).reverse := by
          have hrev := List.takeWhile_append_dropWhile (p := (· == [])) (l := p.segments.reverse)
          rw [hback] at hrev
          simpa using congrArg List.reverse hrev.symm
        have hne : last ≠ [] := by
          have hhead := List.head?_dropWhile_not (· == []) p.segments.reverse
          rw [hback] at hhead
          simpa using hhead
        rw [not_or] at hdots
        refine ⟨back.reverse, _, hrefused, hsegments, fun s hs => ?_, hwalk, hdirectory,
          ⟨?_, hdots.2⟩, rfl⟩
        · have hall := List.all_eq_true.mp List.all_takeWhile s (List.mem_reverse.mp hs)
          exact beq_iff_eq.mp hall
        · simpa [Path.isIdle] using ⟨hne, hdots.1⟩

/-- A path that names an entry, without a slash behind it, leads to the directory of that entry and
ends in its name. -/
theorem exists_of_target {p : Path} {name : Bytes} (h : d.target p = .ok (.entry l name false)) :
    ∃ before, refused? p = none ∧ p.segments = before ++ [name] ∧
      d.walk p.isAbsolute before = .ok l ∧ d.entry? l = some .directory ∧ Path.IsName name := by
  obtain ⟨before, after, hrefused, hsegments, hafter, hwalk, hdirectory, hname, hslash⟩ :=
    exists_segments_of_target h
  obtain ⟨_, last, hlast, hne⟩ := Path.segments_eq_concat
    (bytes_ne_nil_of_refused?_eq_none hrefused) (by simpa using hslash.symm)
  rcases List.eq_nil_or_concat after with rfl | ⟨front, s, rfl⟩
  · exact ⟨before, hrefused, hsegments, hwalk, hdirectory, hname⟩
  · have hs : s = [] := hafter s (by simp)
    rw [hsegments, List.concat_eq_append, ← List.cons_append, ← List.append_assoc] at hlast
    have heq := (List.append_inj' hlast rfl).2
    rw [List.cons.injEq] at heq
    exact absurd (heq.1.symm.trans hs) hne

/-- A temporary file is created in a directory that is there, under the next number, if there is
room for its path. -/
theorem exists_of_createTemporary {d' : Disk} {directory : Path} {number : Nat}
    (h : d.createTemporary directory = .ok (d', number)) :
    refused? (d.temporaryPath directory) = none ∧
      ∃ l, d.resolve directory = .ok l ∧ d.entry? l = some .directory ∧ d' = { d with
        temporaries := ⟨number, l⟩ :: d.temporaries
        nextNumber := d.nextNumber + 1 } := by
  unfold createTemporary at h
  split at h
  · cases h
  next hrefused =>
    obtain ⟨l, hresolve, h⟩ := exists_of_bind_eq_ok h
    obtain ⟨here, henter, hcreated⟩ := exists_of_bind_eq_ok h
    obtain ⟨hhere, hentry, -⟩ := enter_eq_ok_iff.mp henter
    obtain rfl : here = l := hhere
    obtain ⟨rfl, rfl⟩ := Prod.mk.inj (Except.ok.inj hcreated)
    exact ⟨hrefused, here, hresolve, hentry, rfl⟩

/-- Renaming only goes to a name in a directory, and never in the place of a directory. -/
theorem exists_of_renameTemporary {d' : Disk} {directory p : Path} {number : Nat} {content : Bytes}
    (h : d.renameTemporary directory number content p = .ok d') :
    ∃ l name source, d.target p = .ok (.entry l name false) ∧ name.length ≤ nameLimit ∧
      d.entry? (l ++ [name]) ≠ some .directory ∧ d.resolve directory = .ok source ∧
      ⟨number, source⟩ ∈ d.temporaries ∧
      d' = { d.put (l ++ [name]) (.file content) with
        temporaries := d.temporaries.erase ⟨number, source⟩ } := by
  unfold renameTemporary at h
  split at h
  · cases h
  split at h
  · cases h
  obtain ⟨source, hsource, h⟩ := exists_of_bind_eq_ok h
  obtain ⟨target, htarget, h⟩ := exists_of_bind_eq_ok h
  cases target with
  | unnamed => cases h
  | entry l name slash =>
    dsimp only at h
    split at h
    · cases h
    next htemporary =>
    split at h
    · cases h
    next hlength =>
      split at h
      · cases h
      next hslash =>
        split at h
        · cases h
        next hfile =>
          obtain rfl : slash = false := by simpa using hslash
          exact ⟨l, name, source, htarget, Nat.not_lt.mp hlength, hfile, hsource,
            Decidable.not_not.mp htemporary, (Except.ok.inj h).symm⟩

/-- Once the named entry is there, a path leads to it if what stands behind the name stays there. -/
theorem resolve_of_segments {d' : Disk} {p : Path} {name : Bytes} {before after : List Bytes}
    (h : Grows d d') (hrefused : refused? p = none)
    (hsegments : p.segments = before ++ name :: after)
    (hwalk : d.walk p.isAbsolute before = .ok l) (hdirectory : d.entry? l = some .directory)
    (hname : Path.IsName name) (hlength : name.length ≤ nameLimit)
    (hentry : (d'.entry? (l ++ [name])).isSome)
    (hafter : after.foldlM d'.enter (l ++ [name]) = .ok (l ++ [name])) :
    d'.resolve p = .ok (l ++ [name]) := by
  have hwalk' := walk_of_grows h hwalk
  have henter : d'.enter l name = .ok (l ++ [name]) := by
    refine enter_eq_ok_iff.mpr ⟨?_, h.directory l hdirectory, fun _ => ⟨hlength, hentry⟩⟩
    rw [Location.step, hname.1, if_neg hname.2]
    rfl
  rw [resolve, hrefused, hsegments]
  unfold walk at hwalk' ⊢
  rw [List.foldlM_append, hwalk']
  change (name :: after).foldlM d'.enter l = _
  rw [List.foldlM_cons, henter]
  exact hafter

theorem resolve_of_target {d' : Disk} {p : Path} {name : Bytes} (h : Grows d d')
    (ht : d.target p = .ok (.entry l name false)) (hlength : name.length ≤ nameLimit)
    (hentry : (d'.entry? (l ++ [name])).isSome) : d'.resolve p = .ok (l ++ [name]) := by
  obtain ⟨before, hrefused, hsegments, hwalk, hdirectory, hname⟩ := exists_of_target ht
  exact resolve_of_segments h hrefused hsegments hwalk hdirectory hname hlength hentry rfl

theorem read_of_resolve {p : Path} {content : Bytes} (h : d.resolve p = .ok l)
    (hentry : d.entry? l = some (.file content)) : d.read p = .ok content := by
  rw [read, h]
  dsimp only [bind, Except.bind]
  rw [hentry]

end Disk
end Lexicon
