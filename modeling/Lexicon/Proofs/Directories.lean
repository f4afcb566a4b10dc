import Lexicon.Delivery
import Lexicon.Proofs.Path

/-! What making a directory with those above it leaves. New directories stand where there was
nothing, on the way to the path, and nothing else changes. -/

namespace Lexicon

def Path.way (workingDirectory : Location) (p : Path) : List Location :=
  (p :: p.parents).map (·.location workingDirectory)

namespace Disk
variable {d d' : Disk} {p : Path} {l : Location}

theorem directory_of_foldlM {before after : List Bytes} {s : Bytes} {l' : Location}
    (h : (before ++ s :: after).foldlM d.enter l = .ok l') :
    d.entry? (before.foldl Location.step l) = some .directory := by
  rw [List.foldlM_append] at h
  obtain ⟨here, hbefore, h⟩ := exists_of_bind_eq_ok h
  rw [List.foldlM_cons] at h
  obtain ⟨next, hnext, -⟩ := exists_of_bind_eq_ok h
  rw [← foldlM_enter_eq_ok hbefore]
  exact (enter_eq_ok_iff.mp hnext).2.1

/-- Above a path that leads anywhere there are directories only. -/
theorem directory_of_mem_parents (h : d.resolve p = .ok l) {q : Path} (hq : q ∈ p.parents) :
    d.entry? (q.location d.workingDirectory) = some .directory := by
  obtain ⟨before, s, after, hsegments, hlocation⟩ := Path.exists_of_mem_parents hq
  unfold resolve at h
  split at h
  · cases h
  · rw [hsegments] at h
    rw [hlocation]
    exact directory_of_foldlM h

structure MadeDirectories (d d' : Disk) (places : List Location) : Prop where
  frame : d' = { d with entries := d'.entries }
  entry : ∀ l, d'.entry? l = d.entry? l ∨
    l ∈ places ∧ d.entry? l = none ∧ d'.entry? l = some .directory

namespace MadeDirectories
variable {places more : List Location}

theorem refl (d : Disk) (places : List Location) : MadeDirectories d d places :=
  ⟨rfl, fun _ => .inl rfl⟩

theorem workingDirectory (h : MadeDirectories d d' places) :
    d'.workingDirectory = d.workingDirectory := by rw [h.frame]

theorem temporaries (h : MadeDirectories d d' places) : d'.temporaries = d.temporaries := by
  rw [h.frame]

theorem trans {d'' : Disk} (h : MadeDirectories d d' places)
    (h' : MadeDirectories d' d'' places) : MadeDirectories d d'' places where
  frame := by
    rw [h'.frame, h.frame]
  entry l := by
    rcases h'.entry l with hsame | ⟨hl, hnone, hmade⟩
    · rw [hsame]
      exact h.entry l
    · rcases h.entry l with hsame | ⟨-, -, hmade'⟩
      · exact .inr ⟨hl, hsame.symm.trans hnone, hmade⟩
      · rw [hnone] at hmade'
        cases hmade'

theorem mono (h : MadeDirectories d d' places) (hsub : places ⊆ more) :
    MadeDirectories d d' more where
  frame := h.frame
  entry l := (h.entry l).imp_right fun hl => ⟨hsub hl.1, hl.2⟩

theorem grows (h : MadeDirectories d d' places) : Grows d d' where
  workingDirectory := h.workingDirectory
  directory l hl := by
    rcases h.entry l with hsame | ⟨-, -, hmade⟩
    · rw [hsame, hl]
    · exact hmade
  entry l hl := by
    rcases h.entry l with hsame | ⟨-, -, hmade⟩
    · rw [hsame]
      exact hl
    · rw [hmade]
      rfl

/-- If there is something in each place then, all that was missing has been made. -/
theorem entry?_eq (h : MadeDirectories d d' places) (hall : ∀ l ∈ places, (d'.entry? l).isSome)
    (l : Location) : d'.entry? l =
      if l ∈ places ∧ d.entry? l = none then some .directory else d.entry? l := by
  rcases h.entry l with hsame | ⟨hl, hnone, hmade⟩
  · rw [if_neg]
    · exact hsame
    · rintro ⟨hl, hnone⟩
      have hsome := hall l hl
      rw [hsame, hnone] at hsome
      cases hsome
  · rw [if_pos ⟨hl, hnone⟩]
    exact hmade

end MadeDirectories

theorem foldlM_enter_of_nil {after : List Bytes} (h : ∀ s ∈ after, s = [])
    (hl : d.entry? l = some .directory) : after.foldlM d.enter l = .ok l := by
  induction after with
  | nil => rfl
  | cons s after ih =>
    rw [List.forall_mem_cons] at h
    obtain ⟨rfl, hafter⟩ := h
    rw [List.foldlM_cons, enter_nil hl]
    exact ih hafter

theorem spec_of_createDirectory (h : d.createDirectory p = .ok d') :
    MadeDirectories d d' [p.location d.workingDirectory] ∧
      d'.resolve p = .ok (p.location d.workingDirectory) ∧
      d'.entry? (p.location d.workingDirectory) = some .directory := by
  obtain ⟨target, htarget, h⟩ := exists_of_bind_eq_ok h
  cases target with
  | unnamed => cases h
  | entry l name slash =>
    dsimp only at h
    split at h
    · cases h
    next hlength =>
    split at h
    · cases h
    next hnone =>
      obtain rfl := Except.ok.inj h
      obtain ⟨before, after, hrefused, hsegments, hafter, hwalk, hdirectory, hname, -⟩ :=
        exists_segments_of_target htarget
      have hnone : d.entry? (l ++ [name]) = none := by simpa using hnone
      have hentry (l' : Location) := entry?_put (d := d) (e := .directory) (l := l ++ [name])
        (by simp) l'
      have hgrows : Grows d (d.put (l ++ [name]) .directory) :=
        Grows.of_entry rfl (by rw [hnone]; simp) hentry
      have hmade : Disk.entry? (d.put (l ++ [name]) .directory) (l ++ [name]) =
          some .directory := by
        rw [hentry, if_pos rfl]
      have hresolve : (d.put (l ++ [name]) .directory).resolve p = .ok (l ++ [name]) :=
        resolve_of_segments hgrows hrefused hsegments hwalk hdirectory hname
          (Nat.not_lt.mp hlength) (by rw [hmade]; rfl) (foldlM_enter_of_nil hafter hmade)
      have hlocation := location_of_resolve hresolve
      change l ++ [name] = p.location d.workingDirectory at hlocation
      rw [← hlocation]
      refine ⟨⟨rfl, fun l' => ?_⟩, hresolve, hmade⟩
      rw [hentry]
      split
      next heq =>
        subst heq
        exact .inr ⟨List.mem_singleton_self _, hnone, rfl⟩
      next => exact .inl rfl

theorem spec_of_ensureDirectory (h : d.ensureDirectory p = .ok d') :
    MadeDirectories d d' [p.location d.workingDirectory] ∧
      d'.resolve p = .ok (p.location d.workingDirectory) ∧
      d'.entry? (p.location d.workingDirectory) = some .directory := by
  unfold ensureDirectory at h
  split at h
  · split at h
    next hdirectory =>
      obtain rfl := Except.ok.inj h
      unfold isDirectory at hdirectory
      split at hdirectory
      next l hresolve =>
        rw [← location_of_resolve hresolve]
        exact ⟨MadeDirectories.refl .., hresolve, beq_iff_eq.mp hdirectory⟩
      next => cases hdirectory
    next => cases h
  · exact spec_of_createDirectory h

theorem made_createNested (paths : List Path) : MadeDirectories d (d.createNested paths).1
    (paths.map (·.location d.workingDirectory)) := by
  induction paths generalizing d with
  | nil => exact MadeDirectories.refl ..
  | cons p outer ih =>
    have houter := (ih (d := d)).mono (List.subset_cons_self (p.location d.workingDirectory) _)
    have hfirst {start made : Disk} (hstart : start.workingDirectory = d.workingDirectory)
        (h : start.ensureDirectory p = .ok made) :
        MadeDirectories start made ((p :: outer).map (·.location d.workingDirectory)) := by
      have hmade := (spec_of_ensureDirectory h).1
      rw [hstart] at hmade
      exact hmade.mono (by simp)
    unfold createNested
    split
    · exact MadeDirectories.refl ..
    split
    next hmade => exact hfirst rfl hmade
    next =>
      split
      next hnested =>
        rw [hnested] at houter
        exact houter
      next hnested =>
        rw [hnested] at houter
        split
        next hmade => exact houter.trans (hfirst houter.workingDirectory hmade)
        next => exact houter
    next => exact MadeDirectories.refl ..

theorem resolve_of_createNested {outer : List Path} (hp : p.parents ≠ [])
    (h : d.createNested (p :: outer) = (d', none)) :
    d'.resolve p = .ok (p.location d.workingDirectory) ∧
      d'.entry? (p.location d.workingDirectory) = some .directory := by
  have houter := made_createNested (d := d) outer
  unfold createNested at h
  rw [if_neg hp] at h
  split at h
  next hmade =>
    obtain ⟨rfl, -⟩ := Prod.mk.inj h
    exact (spec_of_ensureDirectory hmade).2
  next =>
    split at h
    next => cases (Prod.mk.inj h).2
    next hnested =>
      rw [hnested] at houter
      split at h
      next hmade =>
        obtain ⟨rfl, -⟩ := Prod.mk.inj h
        rw [← houter.workingDirectory]
        exact (spec_of_ensureDirectory hmade).2
      next => cases (Prod.mk.inj h).2
  next => cases (Prod.mk.inj h).2

end Disk

/-- What is found somewhere once a directory is there with those above it. Nothing is made if its
path exists in any form, or has nothing above it as the empty path and the root. -/
def preparedEntry (d : Disk) (p : Path) (l : Location) : Option Entry :=
  if d.exists? p = false ∧ p.parents ≠ [] ∧ l ∈ p.way d.workingDirectory ∧ d.entry? l = none
    then some .directory else d.entry? l

section Preparing
variable {d d' : Disk} {p : Path}

theorem made_prepareDirectory (d : Disk) (p : Path) :
    Disk.MadeDirectories d (prepareDirectory d p).1 (p.way d.workingDirectory) := by
  have hnested := Disk.made_createNested (d := d) (p :: p.parents)
  unfold prepareDirectory Disk.createDirectories
  split
  · exact Disk.MadeDirectories.refl ..
  split
  next hmade =>
    rw [hmade] at hnested
    exact hnested
  next hmade =>
    rw [hmade] at hnested
    exact hnested

theorem exists_of_prepareDirectory_failure {f : Failure}
    (h : prepareDirectory d p = (d', some f)) : ∃ cause, f = .unwritable p cause := by
  unfold prepareDirectory at h
  split at h
  · cases (Prod.mk.inj h).2
  split at h
  next => cases (Prod.mk.inj h).2
  next => exact ⟨_, (Option.some.inj (Prod.mk.inj h).2).symm⟩

/-- If a directory could be made, all that was missing on the way to it has been made. -/
theorem entry?_of_prepareDirectory (h : prepareDirectory d p = (d', none)) (l : Location) :
    d'.entry? l = preparedEntry d p l := by
  have hmade := made_prepareDirectory d p
  rw [h] at hmade
  unfold prepareDirectory at h
  unfold preparedEntry
  split at h
  next hexists =>
    obtain ⟨rfl, -⟩ := Prod.mk.inj h
    rw [if_neg (by simp [hexists])]
  next hexists =>
    split at h
    next start hnested =>
      obtain ⟨rfl, -⟩ := Prod.mk.inj h
      by_cases hp : p.parents = []
      · rw [if_neg (by simp [hp])]
        rw [Disk.createDirectories, Disk.createNested, if_pos hp] at hnested
        rw [(Prod.mk.inj hnested).1]
      · obtain ⟨hresolve, hentry⟩ := Disk.resolve_of_createNested hp hnested
        have hall : ∀ l ∈ p.way d.workingDirectory, (start.entry? l).isSome := by
          intro l hl
          obtain ⟨q, hq, rfl⟩ := List.mem_map.mp hl
          rw [← hmade.workingDirectory]
          rcases List.mem_cons.mp hq with rfl | hq
          · rw [hmade.workingDirectory, hentry]
            rfl
          · rw [Disk.directory_of_mem_parents hresolve hq]
            rfl
        rw [hmade.entry?_eq hall]
        simp [hexists, hp]
    next => cases (Prod.mk.inj h).2

end Preparing
end Lexicon
