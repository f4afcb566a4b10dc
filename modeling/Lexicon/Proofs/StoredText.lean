import Lexicon.Proofs.DryRun
import Lexicon.Proofs.Storable
import Lexicon.Proofs.TextOrder
import Lexicon.Proofs.Union

/-! A list in writing against the list as text. The one is made term by term, with a count of lines
that decides on the line feeds and a count of bytes of its own; the other is joined as a whole. Both
come to the same bytes. -/

namespace Lexicon

section Storing
variable {d d' : Disk} {p : Path} {terms : Vocabulary} {list : StoredList}

theorem isOk_storeList_iff (d : Disk) (p : Path) (terms : Vocabulary) :
    (storeList d p terms).2.isOk ↔ d.Storable p := by
  constructor
  · intro h
    obtain ⟨list, hlist⟩ := exists_of_isOk h
    exact storable_of_storeList (Prod.ext rfl hlist)
  · intro h
    obtain ⟨d', list, hstore⟩ := exists_storeList h terms
    rw [hstore]
    rfl

theorem read_of_storeList (h : storeList d p terms = (d', .ok list)) :
    d'.read p = .ok (Utf8.encode (listText terms.toList)) := by
  obtain ⟨-, hresolve, hentry⟩ := storeList_spec h
  exact Disk.read_of_resolve hresolve (by rw [hentry, if_pos rfl])

end Storing

/-- A draft holds the terms appended to it, one a line, and counts them and their bytes, whatever
they are. A list that is stored holds the bytes of its text, in whatever order its members are
listed for that, and tells their number; whether it can be stored does not hang on its terms. So
what a run stores for a list is the text of that list, and it stays unless a later list is put in
its place. -/
theorem stored_list_holds_text (d : Disk) (p : Path) (terms : Vocabulary) :
    (∀ opened w, Draft.create d p = .ok (opened, w) → ∀ written : List String,
      (written.foldl Draft.append w).Holds written) ∧
    ((storeList d p terms).2.isOk ↔ d.Storable p) ∧
    (∀ d' list, storeList d p terms = (d', .ok list) → ∀ listing, listing.Perm terms.toList →
      d'.read p = .ok (Utf8.encode (listText listing)) ∧
        list = ⟨p, terms.size, (Utf8.encode (listText listing)).length⟩) ∧
    ∀ (c : Config) before lists, c.dryRun = false → (run c before d).result = .ok lists →
      ∀ earlier kind later, ListKind.all = earlier ++ kind :: later →
        let path := targetPath c.outputDirectory c.names kind
        let place := targetLocation d.workingDirectory c.outputDirectory c.names
        let made := (prepareDirectory d c.outputDirectory).1
        let bytes := Utf8.encode (lists.text kind)
        (kind, ⟨path, (lists.get kind).size, bytes.length⟩) ∈ (c.deliver lists d).written ∧
          (deliverLists c.outputDirectory c.names lists made (earlier ++ [kind])).disk.read path =
            .ok bytes ∧
          ((∀ other ∈ later, place other ≠ place kind) →
            (run c before d).disk.read path = .ok bytes) := by
  refine ⟨?streamed, isOk_storeList_iff d p terms, ?stored, ?ran⟩
  case streamed =>
    intro opened w hcreate written
    obtain ⟨-, hholds, -⟩ := Draft.spec_of_create hcreate
    simpa using hholds.foldl_append written
  case stored =>
    intro d' list hstore listing hlisting
    rw [listText_congr fun term => hlisting.mem_iff]
    exact ⟨read_of_storeList hstore, (written_of_storeList hstore).1⟩
  case ran =>
    intro c before lists hdry hresult earlier kind later hall path place made bytes
    obtain ⟨-, hdeliver, hdisk⟩ := deliver_of_run hdry hresult
    obtain ⟨_, hprepare, hworking, hlists⟩ := exists_of_deliver hdeliver
    obtain rfl : made = _ := congrArg Prod.fst hprepare
    have hwritten := written_of_deliver hdeliver
    rw [hlists, hall] at hdeliver
    refine ⟨?_, ?_, fun hlast => ?_⟩
    · rw [Config.deliver, hwritten]
      exact List.mem_map_of_mem kind.mem_all
    · rw [← List.singleton_append, ← List.append_assoc] at hdeliver
      exact read_deliverLists_of_last (deliverLists_failure_of_append hdeliver) (by simp)
    · rw [hdisk, hlists, hall]
      refine read_deliverLists_of_last hdeliver ?_
      rw [hworking]
      exact hlast

/-- The empty term stands first, as an empty line. -/
theorem empty_term_stored :
    (∃ d' list, storeList {} (.ofString "t") (.ofTerms ["é", "", "a\nb"]) = (d', .ok list) ∧
      d'.read (.ofString "t") = .ok (Utf8.encode "\na\nb\né") ∧ list.bytes = 7) ∧
    ∃ lists, (run defaultNamesConfig {} constantDisk).result = .ok lists ∧
      (run defaultNamesConfig {} constantDisk).disk.read
          (targetPath defaultNamesConfig.outputDirectory defaultNamesConfig.names .consts) =
        .ok (Utf8.encode (lists.text .consts)) := by
  have hstorable : Disk.Storable {} (.ofString "t") :=
    ⟨rfl, ⟨[], rfl, rfl⟩, [], Utf8.encode "t", rfl, by decide, by decide⟩
  have hlisting : ["a\nb", "", "é"].Perm (Vocabulary.ofTerms ["é", "", "a\nb"]).toList := by
    decide +kernel
  have hsorted : SortedByBytes ["", "a\nb", "é"] := by decide +kernel
  have htext : listText ["a\nb", "", "é"] = "\na\nb\né" := by
    rw [listText, ← hsorted.dropRepeats_eq (by decide)]
    decide +kernel
  have hok : (run defaultNamesConfig {} constantDisk).result.isOk := by decide +kernel
  obtain ⟨lists, hlists⟩ := exists_of_isOk hok
  obtain ⟨-, hiff, hstored, -⟩ :=
    stored_list_holds_text {} (.ofString "t") (.ofTerms ["é", "", "a\nb"])
  obtain ⟨list, hlist⟩ := exists_of_isOk (hiff.mpr hstorable)
  obtain ⟨-, -, -, hran⟩ := stored_list_holds_text constantDisk (.ofString "t") ∅
  obtain ⟨hread, hcounted⟩ := hstored _ list (Prod.ext rfl hlist) _ hlisting
  obtain ⟨-, -, hlast⟩ := hran defaultNamesConfig {} lists rfl hlists [.terms, .vars] .consts [] rfl
  rw [htext] at hread hcounted
  refine ⟨⟨_, list, Prod.ext rfl hlist, hread, ?_⟩, lists, hlists, hlast (by simp)⟩
  rw [hcounted]
  decide +kernel

end Lexicon
