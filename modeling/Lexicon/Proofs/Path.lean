import Lexicon.Proofs.Disk

/-! The paths above a path, which are cut from its text, lead where the path has been on its way. -/

namespace Lexicon

namespace Location

theorem foldl_step_of_idle {segments : List Bytes} (h : ∀ s ∈ segments, Path.isIdle s)
    (l : Location) : segments.foldl step l = l := by
  induction segments with
  | nil => rfl
  | cons s segments ih =>
    rw [List.forall_mem_cons] at h
    rw [List.foldl_cons, step, if_pos h.1]
    exact ih h.2

/-- Idle segments at the end of a path do not matter. The segments are given from the last to the
first. -/
theorem foldl_step_dropWhile (segments : List Bytes) (l : Location) :
    (segments.dropWhile Path.isIdle).reverse.foldl step l = segments.reverse.foldl step l := by
  have hidle : ∀ s ∈ (segments.takeWhile Path.isIdle).reverse, Path.isIdle s := by
    intro s hs
    exact List.all_eq_true.mp List.all_takeWhile s (List.mem_reverse.mp hs)
  have hparts : segments.reverse = (segments.dropWhile Path.isIdle).reverse ++
      (segments.takeWhile Path.isIdle).reverse := by
    rw [← List.reverse_append, List.takeWhile_append_dropWhile]
  rw [hparts, List.foldl_append, foldl_step_of_idle hidle]

end Location

namespace Path

theorem not_mem_of_mem_splitOn {b : UInt8} {bs segment : Bytes} (h : segment ∈ bs.splitOn b) :
    b ∉ segment := by
  induction bs generalizing segment with
  | nil =>
    rw [List.splitOn_nil, List.mem_singleton] at h
    simp [h]
  | cons c bs ih =>
    rw [List.splitOn_cons_eq_if_modifyHead] at h
    split at h
    next =>
      rcases List.mem_cons.mp h with rfl | h
      · simp
      · exact ih h
    next hc =>
      have hne : b ≠ c := fun hbc => hc (beq_iff_eq.mpr hbc.symm)
      cases hsplit : bs.splitOn b with
      | nil => simp [hsplit] at h
      | cons first rest =>
        rw [hsplit, List.modifyHead_cons, List.mem_cons] at h
        rcases h with rfl | h
        · have hfirst : b ∉ first := ih (by simp [hsplit])
          simpa [hne] using hfirst
        · exact ih (by simp [hsplit, h])

theorem splitOn_slash_cons (rest : Bytes) :
    (slash :: rest).splitOn slash = [] :: rest.splitOn slash := by
  simp [List.splitOn_cons_eq_if_modifyHead]

theorem foldl_step_splitOn_intercalate {segments : List Bytes} (h : ∀ s ∈ segments, slash ∉ s)
    (l : Location) : (([slash].intercalate segments).splitOn slash).foldl Location.step l =
      segments.foldl Location.step l := by
  by_cases hnil : segments = []
  · rw [hnil]
    exact Location.foldl_step_of_idle (by simp [isIdle]) l
  · rw [List.splitOn_intercalate slash h hnil]

/-- A parent is cut off behind the segments that stand before some name. -/
theorem exists_of_mem_parentsFrom {anchor : Bytes} {segments : List Bytes} {q : Path}
    (h : q ∈ parentsFrom anchor segments) :
    (anchor = [dot] ∧ q = ⟨[]⟩) ∨ ∃ after s before, segments = after ++ s :: before ∧
      isIdle s = false ∧
        q = ⟨anchor ++ [slash].intercalate (before.dropWhile isIdle).reverse⟩ := by
  induction segments with
  | nil =>
    unfold parentsFrom at h
    split at h
    next hdot => exact .inl ⟨hdot, List.mem_singleton.mp h⟩
    next => cases h
  | cons s segments ih =>
    have hcase : (isIdle s = false ∧
        q = ⟨anchor ++ [slash].intercalate (segments.dropWhile isIdle).reverse⟩) ∨
          q ∈ parentsFrom anchor segments := by
      unfold parentsFrom at h
      split at h
      next => exact .inr h
      next hidle =>
        rcases List.mem_cons.mp h with hq | h
        · exact .inl ⟨by simpa using hidle, hq⟩
        · exact .inr h
    rcases hcase with ⟨hidle, hq⟩ | hlater
    · exact .inr ⟨[], s, segments, rfl, hidle, hq⟩
    · rcases ih hlater with hdot | ⟨after, s', before, rfl, hs', hq⟩
      · exact .inl hdot
      · exact .inr ⟨s :: after, s', before, rfl, hs', hq⟩

theorem isPrefix_intercalate (segments more : List Bytes) :
    [slash].intercalate segments <+: [slash].intercalate (segments ++ more) := by
  induction segments with
  | nil => simp
  | cons s segments ih =>
    cases segments with
    | nil => cases more <;> simp
    | cons s' segments =>
      simp only [List.cons_append, List.intercalate_cons_cons] at ih ⊢
      simpa using ih

/-- A parent is cut off a text in front of a segment that is a name, and leads where the segments
before it do. -/
theorem exists_front_of_mem_parentsFrom {anchor bs : Bytes} {q : Path}
    (h : q ∈ parentsFrom anchor (bs.splitOn slash).reverse) :
    (anchor = [dot] ∧ q = ⟨[]⟩) ∨ ∃ before s after front, bs.splitOn slash = before ++ s :: after ∧
      isIdle s = false ∧ q = ⟨anchor ++ front⟩ ∧ front <+: bs ∧
      ∀ l, (front.splitOn slash).foldl Location.step l = before.foldl Location.step l := by
  rcases exists_of_mem_parentsFrom h with hdot | ⟨after, s, before, hsplit, hidle, hq⟩
  · exact .inl hdot
  have hsegments : bs.splitOn slash = before.reverse ++ s :: after.reverse := by
    simpa using congrArg List.reverse hsplit
  have hparts : before.reverse =
      (before.dropWhile isIdle).reverse ++ (before.takeWhile isIdle).reverse := by
    rw [← List.reverse_append, List.takeWhile_append_dropWhile]
  refine .inr ⟨before.reverse, s, after.reverse, _, hsegments, hidle, hq, ?_, fun l => ?_⟩
  · have hprefix := isPrefix_intercalate (before.dropWhile isIdle).reverse
      ((before.takeWhile isIdle).reverse ++ s :: after.reverse)
    rwa [← List.append_assoc, ← hparts, ← hsegments, List.intercalate_splitOn] at hprefix
  · rw [foldl_step_splitOn_intercalate, Location.foldl_step_dropWhile]
    intro segment hsegment
    have hmem : segment ∈ bs.splitOn slash := by
      rw [hsegments, hparts]
      exact List.mem_append_left _ (List.mem_append_left _ hsegment)
    exact not_mem_of_mem_splitOn hmem

/-- A path begins with a slash, is a dot, begins with a dot as its first segment, or begins with
another name. -/
theorem anchor_cases (p : Path) :
    (∃ rest, p = ⟨slash :: rest⟩ ∧ p.anchor = ([slash], rest)) ∨
      (p = ⟨[dot]⟩ ∧ p.anchor = ([dot], [])) ∨
      (∃ rest, p = ⟨dot :: slash :: rest⟩ ∧ p.anchor = ([dot], slash :: rest)) ∨
      (p.isAbsolute = false ∧ p.anchor = ([], p.bytes)) := by
  obtain ⟨bs⟩ := p
  unfold anchor
  split
  next rest h => exact .inl ⟨rest, congrArg Path.mk h, rfl⟩
  next h => exact .inr (.inl ⟨congrArg Path.mk h, rfl⟩)
  next rest h => exact .inr (.inr (.inl ⟨rest, congrArg Path.mk h, rfl⟩))
  next hslash _ _ =>
    refine .inr (.inr (.inr ⟨?_, rfl⟩))
    rw [isAbsolute, beq_eq_false_iff_ne]
    intro hhead
    obtain ⟨rest, hrest⟩ := List.head?_eq_some_iff.mp hhead
    exact hslash rest hrest

theorem splitOn_dot_slash_cons (rest : Bytes) :
    (dot :: slash :: rest).splitOn slash = [dot] :: rest.splitOn slash := by
  have hdot : slash ∉ [dot] := by decide
  exact List.splitOn_append_cons_self_of_not_mem hdot rest

/-- A leading dot leads nowhere, if nothing or a slash follows it. -/
theorem location_dot_append {bs more : Bytes} (h : bs <+: slash :: more)
    (workingDirectory : Location) : location workingDirectory ⟨dot :: bs⟩ =
      (bs.splitOn slash).foldl Location.step workingDirectory := by
  rcases List.prefix_cons_iff.mp h with rfl | ⟨rest, rfl, -⟩
  · rfl
  · change (List.splitOn slash (dot :: slash :: rest)).foldl Location.step workingDirectory = _
    rw [splitOn_dot_slash_cons, splitOn_slash_cons]
    rfl

theorem isAbsolute_of_isPrefix {bs front : Bytes} (h : front <+: bs)
    (hbs : isAbsolute ⟨bs⟩ = false) : isAbsolute ⟨front⟩ = false := by
  obtain ⟨more, rfl⟩ := h
  rw [isAbsolute, beq_eq_false_iff_ne] at hbs ⊢
  intro hhead
  rw [List.head?_append, hhead] at hbs
  exact hbs rfl

theorem exists_of_mem_parentsFrom_dot {rest : Bytes} {q : Path}
    (h : q ∈ parentsFrom [dot] ((slash :: rest).splitOn slash).reverse) :
    ∃ before s after, [dot] :: rest.splitOn slash = before ++ s :: after ∧
      ∀ workingDirectory : Location,
        q.location workingDirectory = before.foldl Location.step workingDirectory := by
  rcases exists_front_of_mem_parentsFrom h with
    ⟨-, rfl⟩ | ⟨before, s, after, front, hsegments, hidle, rfl, hprefix, hfold⟩
  · exact ⟨[], [dot], rest.splitOn slash, rfl, fun _ => rfl⟩
  rw [splitOn_slash_cons] at hsegments
  cases before with
  | nil =>
    -- The first of these segments is empty, and so is not the name that is cut off.
    obtain ⟨rfl, -⟩ := List.cons.inj hsegments
    cases hidle
  | cons first between =>
    obtain ⟨rfl, hrest⟩ := List.cons.inj hsegments
    refine ⟨[dot] :: between, s, after, congrArg _ hrest, fun workingDirectory => ?_⟩
    exact (location_dot_append hprefix workingDirectory).trans (hfold workingDirectory)

/-- A parent of a path leads where the path has been before one of its segments. -/
theorem exists_of_mem_parents {p q : Path} (h : q ∈ p.parents) :
    ∃ before s after, p.segments = before ++ s :: after ∧ ∀ workingDirectory : Location,
      q.location workingDirectory =
        before.foldl Location.step (if p.isAbsolute then [] else workingDirectory) := by
  unfold parents at h
  rcases p.anchor_cases with ⟨rest, rfl, hanchor⟩ | ⟨rfl, hanchor⟩ | ⟨rest, rfl, hanchor⟩ |
    ⟨habsolute, hanchor⟩ <;> rw [hanchor] at h
  · rcases exists_front_of_mem_parentsFrom h with
      ⟨hdot, -⟩ | ⟨before, s, after, front, hsegments, -, rfl, -, hfold⟩
    · cases hdot
    · refine ⟨[] :: before, s, after, ?_, fun workingDirectory => ?_⟩
      · exact (splitOn_slash_cons rest).trans (congrArg _ hsegments)
      · change (List.splitOn slash (slash :: front)).foldl Location.step [] = _
        rw [splitOn_slash_cons]
        exact hfold []
  · obtain rfl : q = ⟨[]⟩ := by simpa [parentsFrom, isIdle] using h
    exact ⟨[], [dot], [], rfl, fun _ => rfl⟩
  · obtain ⟨before, s, after, hsegments, hlocation⟩ := exists_of_mem_parentsFrom_dot h
    exact ⟨before, s, after, (splitOn_dot_slash_cons rest).trans hsegments, hlocation⟩
  · rcases exists_front_of_mem_parentsFrom h with
      ⟨hdot, -⟩ | ⟨before, s, after, front, hsegments, -, rfl, hprefix, hfold⟩
    · cases hdot
    · refine ⟨before, s, after, hsegments, fun workingDirectory => ?_⟩
      have hrelative : isAbsolute ⟨front⟩ = false := isAbsolute_of_isPrefix hprefix habsolute
      rw [habsolute, location, List.nil_append, hrelative]
      exact hfold workingDirectory

end Path
end Lexicon
