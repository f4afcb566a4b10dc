import Lexicon.Proofs.Decoding
import Lexicon.Proofs.SameTree
import Lexicon.Proofs.Stages

/-! A corpus reads the same in whatever form its text is stored, and runs over files of different
form do the same. -/

namespace Lexicon

inductive CorpusForm where
  | unmarked
  | utf8
  | utf16 (order : Utf16.ByteOrder)
  deriving Repr, DecidableEq

namespace CorpusForm

def bytes : CorpusForm → String → Bytes
  | unmarked, text => Utf8.encode text
  | utf8, text => 0xEF :: 0xBB :: 0xBF :: Utf8.encode text
  | utf16 .little, text => 0xFF :: 0xFE :: Utf16.encode .little text
  | utf16 .big, text => 0xFE :: 0xFF :: Utf16.encode .big text

/-- Without a mark a text must not begin with the character of one. -/
def Admits : CorpusForm → String → Prop
  | unmarked, text => text.toList.head? ≠ some '\uFEFF'
  | _, _ => True

end CorpusForm

theorem Decoded.ofContent_of_mark {d : Detection} {content body : Bytes} {text : String}
    (hmark : Detection.ofMark? content = some d) (hbody : content.drop d.markLength = body)
    (hvalid : d.encoding.reader.isValid body) (htext : d.encoding.reader.decode body = text) :
    ofContent content = ⟨text, none⟩ := by
  have hd : Detection.ofContent content = d := by rw [Detection.ofContent, hmark]
  refine ofContent_eq hd ?_
  rw [decode_eq (Detection.markLength_le_of_ofMark? hmark), hbody, if_pos hvalid, htext]

theorem CorpusForm.ofContent_bytes {form : CorpusForm} {text : String} (h : form.Admits text) :
    Decoded.ofContent (form.bytes text) = ⟨text, none⟩ := by
  cases form with
  | unmarked => exact Decoded.ofContent_encode h
  | utf8 =>
    exact Decoded.ofContent_of_mark (d := ⟨.utf8, .certain, 3⟩) rfl rfl (Utf8.isValid_encode text)
      (Utf8.decode_encode text)
  | utf16 order =>
    have hvalid := Utf16.isValid_encode order text
    have htext := Utf16.decode_encode order text
    cases order with
    | little => exact Decoded.ofContent_of_mark rfl rfl hvalid htext
    | big => exact Decoded.ofContent_of_mark rfl rfl hvalid htext

namespace CorpusText

theorem text_ofContent (p : Path) (content : Bytes) :
    (ofContent p content).text = (Decoded.ofContent content).text := by
  unfold ofContent
  split
  next hnil => rw [hnil, Decoded.ofContent_nil]
  next => rfl

theorem level_of_mem_events {p : Path} {content : Bytes}
    (h : (Decoded.ofContent content).warning = none) :
    ∀ e ∈ (ofContent p content).events, e.level ≠ .warn := by
  have hfilter := filter_warn_events p content
  rw [h, Option.map_none, Option.toList_none, List.filter_eq_nil_iff] at hfilter
  intro e he hwarn
  exact hfilter e he (beq_iff_eq.mpr hwarn)

end CorpusText

theorem CorpusForm.exists_corpus {form : CorpusForm} {text : String} (hform : form.Admits text)
    {d : Disk} {p : Path} (h : d.read p = .ok (form.bytes text)) :
    ∃ corpus, CorpusText.read d p = .ok corpus ∧ corpus.text = text ∧
      ∀ e ∈ corpus.events, e.level ≠ .warn := by
  have hdecoded := CorpusForm.ofContent_bytes hform
  refine ⟨_, CorpusText.read_of_read h, ?_, CorpusText.level_of_mem_events ?_⟩
  · rw [CorpusText.text_ofContent, hdecoded]
  · rw [hdecoded]

/-- Runs over files that hold one text, each in some form, read the same records and make the same
wordlists with the same counters. They write them alike, or fail to write them alike. -/
theorem run_independent_of_form {form other : CorpusForm} {text : String}
    (hform : form.Admits text) (hother : other.Admits text) {c : Config} {d d' : Disk}
    (htree : d.SameTree d') (h : d.read c.input = .ok (form.bytes text))
    (h' : d'.read c.input = .ok (other.bytes text)) (before : RunCounts) :
    let g := c.generation text
    let r := run c before d
    let r' := run c before d'
    (∃ corpus, CorpusText.read d c.input = .ok corpus ∧ corpus.text = text ∧
      ∀ e ∈ corpus.events, e.level ≠ .warn) ∧
    readRecords d c.input = .ok (recordsOf text) ∧
    r.counts = g.counts { before with corpusBytes := (Utf8.encode text).length } ∧
    r'.counts = r.counts ∧
    r.result = (if c.dryRun then .ok g.lists else (c.deliver g.lists d).outcome g.lists) ∧
    r'.result = r.result ∧ Disk.AlikeSince d d' r.disk r'.disk := by
  obtain ⟨corpus, hcorpus, rfl, hevents⟩ := form.exists_corpus hform h
  obtain ⟨corpus', hcorpus', htext, -⟩ := other.exists_corpus hother h'
  intro g r r'
  have hrecords : readRecords d c.input = .ok (recordsOf corpus.text) := by
    rw [readRecords, hcorpus]
    rfl
  have hcounts := counts_run before hcorpus
  have hcounts' := counts_run before hcorpus'
  rw [htext] at hcounts'
  rw [Utf8.length_encode]
  refine ⟨⟨corpus, hcorpus, rfl, hevents⟩, hrecords, hcounts, hcounts'.trans hcounts.symm, ?_⟩
  cases hdry : c.dryRun with
  | true =>
    obtain ⟨hresult, hdisk⟩ := run_of_dryRun before hcorpus hdry
    obtain ⟨hresult', hdisk'⟩ := run_of_dryRun before hcorpus' hdry
    rw [htext] at hresult'
    refine ⟨hresult, hresult'.trans hresult.symm, ?_⟩
    rw [hdisk, hdisk']
    exact htree.alike
  | false =>
    obtain ⟨hresult, hdisk⟩ := run_of_not_dryRun before hcorpus hdry
    obtain ⟨hresult', hdisk'⟩ := run_of_not_dryRun before hcorpus' hdry
    rw [htext] at hresult' hdisk'
    obtain ⟨halike, hfailure⟩ := htree.alike.deliver c.outputDirectory c.names g.lists
    have houtcome : (c.deliver g.lists d').outcome g.lists =
        (c.deliver g.lists d).outcome g.lists := by
      unfold Delivery.outcome Config.deliver
      rw [hfailure]
    refine ⟨hresult, (hresult'.trans houtcome).trans hresult.symm, ?_⟩
    rw [hdisk, hdisk']
    exact halike

/-- A disk with a corpus in some form, whose first character takes two units of UTF-16. -/
def pairedDisk (form : CorpusForm) : Disk :=
  ({} : Disk).put [Utf8.encode "corpus"] (.file (form.bytes "😀_a"))

theorem paired_corpus_runs_alike :
    let c : Config := { input := .ofString "corpus" }
    let r := run c {} (pairedDisk .unmarked)
    let r' := run c {} (pairedDisk (.utf16 .little))
    (Utf8.encode "😀_a").length = 6 ∧ r.counts.corpusBytes = 6 ∧ r'.counts = r.counts ∧
      r'.result = r.result := by
  intro c r r'
  have hform : CorpusForm.unmarked.Admits "😀_a" := by
    unfold CorpusForm.Admits
    decide
  have hother : (CorpusForm.utf16 .little).Admits "😀_a" := trivial
  have hread (form : CorpusForm) : (pairedDisk form).read c.input = .ok (form.bytes "😀_a") := by
    have hresolve : (pairedDisk form).resolve c.input = .ok [Utf8.encode "corpus"] := rfl
    exact Disk.read_of_resolve hresolve rfl
  have htree : (pairedDisk .unmarked).SameTree (pairedDisk (.utf16 .little)) :=
    (Disk.SameTree.refl {}).put_file (by simp) _ _
  obtain ⟨-, -, hcounts, hsame, -, hresult, -⟩ :=
    run_independent_of_form hform hother htree (hread _) (hread _) {}
  have hlength : (Utf8.encode "😀_a").length = 6 := by decide
  have hbytes : r.counts.corpusBytes = 6 := by rw [hcounts, Generation.counts, hlength]
  exact ⟨hlength, hbytes, hsame, hresult⟩

end Lexicon
