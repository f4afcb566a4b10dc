import Lexicon.Corpus.Loading
import Lexicon.Pattern
import Lexicon.Proofs.DigitShare
import Lexicon.Proofs.RecordOffsets

/-! Loading and generation with every slice, byte and division checked. No check ever fails, and so
they come to what they come to without. -/

namespace Lexicon

namespace Utf8

/-- Whether what a fault tells of some bytes lies within them. Skipping it leaves fewer. -/
structure Fault.IsWithin (fault : Fault) (bs : Bytes) : Prop where
  validUpTo_le : fault.validUpTo ≤ bs.length
  length_pos : ∀ n, fault.length? = some n → 0 < n
  stop_le : ∀ n, fault.length? = some n → fault.validUpTo + n ≤ bs.length

theorem isWithin_of_fault? {bs : Bytes} {fault : Fault} (h : fault? bs = some fault) :
    fault.IsWithin bs := by
  have hinvalid : ¬utf8.isValid bs := by
    intro hvalid
    rw [fault?_eq_none hvalid] at h
    cases h
  obtain ⟨text, run, rest, rfl, hne, hscan⟩ := exists_run_of_invalid hinvalid
  rw [fault?_of_run hscan] at h
  obtain rfl := Option.some.inj h
  have hlength (n : Nat) : (if utf8.scan rest = [] ∧ (run.head?.bind lead).isSome then none
      else some run.length) = some n → n = run.length := by
    split
    · intro h
      cases h
    · intro h
      exact (Option.some.inj h).symm
  refine ⟨?_, fun n hn => ?_, fun n hn => ?_⟩
  · simp
  · rw [hlength n hn]
    exact List.length_pos_of_ne_nil hne
  · rw [hlength n hn]
    simp

def round? (bs : Bytes) : Option Round :=
  match fault? bs with
  | none => some (.done !isAscii bs)
  | some fault => do
    let valid ← slice? bs 0 fault.validUpTo
    let rest ← slice? bs fault.validUpTo bs.length
    if !isAscii valid then some (.done true)
    else match fault.length? with
      | some n => (slice? rest n rest.length).map .left
      | none => some (.done false)

theorem round?_eq (bs : Bytes) : round? bs = some (round bs) := by
  unfold round? round
  cases hfault : fault? bs with
  | none => rfl
  | some fault =>
    have hwithin := isWithin_of_fault? hfault
    simp only [slice?_take hwithin.validUpTo_le, slice?_drop hwithin.validUpTo_le,
      Option.bind_eq_bind, Option.bind_some]
    split
    · rfl
    · cases hn : fault.length? with
      | none => rfl
      | some n =>
        have hle : n ≤ (bs.drop fault.validUpTo).length := by
          have := hwithin.stop_le n hn
          rw [List.length_drop]
          omega
        simp only [slice?_drop hle, Option.map_some]

/-- The search, round after round, as long as each leaves fewer bytes. -/
def search? (bs : Bytes) : Option Bool :=
  match round? bs with
  | none => none
  | some (.done found) => some found
  | some (.left rest) => if rest.length < bs.length then search? rest else none
termination_by bs.length

theorem search?_eq (bs : Bytes) : search? bs = some (hasNonAscii bs) := by
  induction hn : bs.length using Nat.strongRecOn generalizing bs with
  | _ n ih =>
    unfold search?
    rw [round?_eq]
    rcases round_cases bs with hdone | ⟨rest, hleft, hlt, hfound⟩
    · rw [hdone]
    · rw [hleft]
      dsimp only
      rw [if_pos hlt, hfound]
      exact ih rest.length (by omega) rest rfl

end Utf8

/-- Detection with the search checked and the sample cut out of the content. -/
def Detection.ofContent? (content : Bytes) : Option Detection :=
  match ofMark? content with
  | some d => some d
  | none =>
    if utf8.isValid content then some {}
    else do
      if ← Utf8.search? content then some { confidence := .mixed }
      else
        let sample ← slice? content 0 (min content.length sampleLength)
        let encoding := if sample.length < content.length && startsUtf8 sample then .utf8
          else .windows1252
        some { encoding, confidence := .guessed }

theorem Detection.ofContent?_eq (content : Bytes) :
    ofContent? content = some (ofContent content) := by
  have hsample : content.take (min content.length sampleLength) = content.take sampleLength := by
    rw [List.take_eq_take_iff]
    omega
  have hlength : (content.take sampleLength).length < content.length ↔
      sampleLength < content.length := by
    rw [List.length_take]
    omega
  have hguess : (if (content.take sampleLength).length < content.length &&
      startsUtf8 (content.take sampleLength) then Encoding.utf8 else .windows1252) =
        guess content := by
    simp only [guess, hlength]
  unfold ofContent? ofContent
  cases ofMark? content with
  | some d => rfl
  | none =>
    simp only [Utf8.search?_eq, slice?_take (Nat.min_le_left _ _), hsample, Option.bind_eq_bind,
      Option.bind_some, hguess]
    split
    · rfl
    · split <;> rfl

def corpusText? (content : Bytes) : Option String :=
  if content = [] then some ""
  else do
    let d ← Detection.ofContent? content
    let body ← slice? content d.markLength content.length
    some (d.encoding.reader.decode body)

theorem corpusText?_eq (p : Path) (content : Bytes) :
    corpusText? content = some (CorpusText.ofContent p content).text := by
  unfold corpusText? CorpusText.ofContent
  split
  · rfl
  · have hmark := Detection.markLength_ofContent_le content
    have hdecoded : (Decoded.ofContent content).text = _ :=
      congrArg Decoded.text (Decoded.ofContent_eq rfl (decode_eq hmark))
    dsimp only
    rw [hdecoded]
    simp only [Detection.ofContent?_eq, slice?_drop hmark, Option.bind_eq_bind, Option.bind_some]

/-- The records of a corpus file, with everything checked on the way from its bytes. -/
def readRecords? (d : Disk) (p : Path) : Option (Except Failure (List String)) :=
  match d.read p with
  | .error reason => some (.error (.unreadable p ⟨reason, none⟩))
  | .ok content => do
    let text ← corpusText? content
    let records ← cutRecords? text
    some (.ok records)

theorem readRecords?_eq (d : Disk) (p : Path) : readRecords? d p = some (readRecords d p) := by
  unfold readRecords? readRecords CorpusText.read
  cases d.read p with
  | error reason => rfl
  | ok content =>
    simp only [corpusText?_eq p, cutRecords?_eq, Option.bind_eq_bind, Option.bind_some]
    rfl

namespace Binary64

def isZero : Binary64 → Bool
  | finite _ units _ => units = 0
  | _ => false

def div? (x y : Binary64) : Option Binary64 := if y.isZero then none else some (x / y)

/-- A count is rounded, but never down to zero. -/
theorem isZero_ofNat {n : Nat} (hn : 0 < n) : (ofNat n).isZero = false := by
  rcases ofNat_cases n with ⟨hr, hfinite⟩ | ⟨-, hinfinite⟩
  · have hpos := roundUnits_ofNat_pos hn
    rw [hfinite, isZero, decide_eq_false_iff_not]
    omega
  · rw [hinfinite]
    rfl

end Binary64

def digitShare? (term : String) : Option (Option Binary64) :=
  if term.length = 0 then some none
  else do
    let _ ← (Pattern.read "\\d").toOption
    let share ← (Binary64.ofNat (term.toList.countP isDecimalDigit)).div? (.ofNat term.length)
    some (some share)

theorem exists_digitPattern : ∃ regex, (Pattern.read "\\d").toOption = some regex := by
  have hread : (Pattern.read "\\d").toOption.isSome := by decide +kernel
  exact Option.isSome_iff_exists.mp hread

theorem digitShare?_eq (term : String) : digitShare? term = some (digitShare term) := by
  obtain ⟨regex, hregex⟩ := exists_digitPattern
  unfold digitShare? digitShare
  dsimp only
  split
  · rfl
  next hlength =>
    have hdivisor := Binary64.isZero_ofNat (Nat.pos_of_ne_zero hlength)
    rw [hregex, Binary64.div?, hdivisor]
    rfl

namespace NoiseRule

def verdict? (f : NoiseRule) (term : String) : Option Verdict :=
  if term = "" then some .empty
  else do
    let drops := match ← digitShare? term with
      | none => true
      | some share => f.ratioThreshold.lt share && f.lengthThreshold < term.length
    some (if drops then .numeric else .retained)

theorem verdict?_eq (f : NoiseRule) (term : String) : f.verdict? term = some (f.verdict term) := by
  unfold verdict? verdict
  split
  · rfl
  · rw [digitShare?_eq, drops]
    rfl

end NoiseRule

namespace Filtered

def addAs (s : Filtered) (term : String) : Verdict → Filtered
  | .empty => { s with counts := { s.counts with empty := s.counts.empty + 1 } }
  | .numeric =>
    { s with
      counts := { s.counts with numeric := s.counts.numeric + 1 }
      dropped := term :: s.dropped }
  | .retained =>
    { s with
      counts := { s.counts with retained := s.counts.retained + 1 }
      terms := s.terms.insert term }

def addTerm? (f : NoiseRule) (s : Filtered) (term : String) : Option Filtered :=
  (f.verdict? term).map (s.addAs term)

theorem addTerm?_eq (f : NoiseRule) (s : Filtered) (term : String) :
    addTerm? f s term = some (addTerm f s term) := by
  rw [addTerm?, NoiseRule.verdict?_eq, Option.map_some, addTerm]
  cases f.verdict term <;> rfl

theorem foldlM_addTerm? (f : NoiseRule) (s : Filtered) (terms : List String) :
    terms.foldlM (addTerm? f) s = some (terms.foldl (addTerm f) s) := by
  induction terms generalizing s with
  | nil => rfl
  | cons term terms ih =>
    rw [List.foldlM_cons, addTerm?_eq, List.foldl_cons]
    exact ih (addTerm f s term)

end Filtered

def generate? (delimiter : Char) (noise : NoiseRule) (records : List String) :
    Option Wordlists := do
  let terms := (tokenize delimiter records).terms
  let filtered ← terms.toList.foldlM (Filtered.addTerm? noise) {}
  some ⟨filtered.terms, ByCasing.ofVocabulary filtered.terms⟩

theorem generate?_eq (delimiter : Char) (noise : NoiseRule) (records : List String) :
    generate? delimiter noise records = some (generate delimiter noise records) := by
  rw [generate?, Filtered.foldlM_addTerm?]
  rfl

/-- A byte order mark lies within the content. A fault of bytes lies within them, as does what is
skipped for it, which is never nothing, so the search for UTF-8 beyond ASCII ends with no cut that
fails. Records are cut out between characters, from a start up to an end behind it within the text.
No share of digits is divided by zero. So loading and generation come to the same with all of this
checked. -/
theorem nothing_out_of_bounds :
    (∀ content, (Detection.ofContent content).markLength ≤ content.length ∧
      Utf8.search? content = some (Utf8.hasNonAscii content)) ∧
    (∀ bs fault, Utf8.fault? bs = some fault → fault.IsWithin bs) ∧
    (∀ text, cutRecords? text = some (recordsOf text) ∧
      (∀ earlier place later, breaksFrom 0 (Utf8.encode text) = earlier ++ place :: later →
        ∃ s, earlier.foldlM (Cutting.next? text) {} = some s ∧
          (s.start ≤ place → IsCut text s.start place)) ∧
      ∃ s, (breaksFrom 0 (Utf8.encode text)).foldlM (Cutting.next? text) {} = some s ∧
        IsCut text s.start (Utf8.encode text).length) ∧
    (∀ term, digitShare? term = some (digitShare term)) ∧
    (∀ d p, readRecords? d p = some (readRecords d p)) ∧
    ∀ delimiter noise records,
      generate? delimiter noise records = some (generate delimiter noise records) := by
  refine ⟨?detected, ?searched, ?cut, digitShare?_eq, readRecords?_eq, generate?_eq⟩
  case detected =>
    intro content
    exact ⟨Detection.markLength_ofContent_le content, Utf8.search?_eq content⟩
  case searched =>
    intro bs fault hfault
    exact Utf8.isWithin_of_fault? hfault
  case cut =>
    intro text
    refine ⟨cutRecords?_eq text, ?_, exists_last_cutting text⟩
    intro earlier place later hplaces
    exact exists_cutting text hplaces

/-- A stray byte is skipped, and a character of two bytes before a pair of breaks is cut whole. -/
theorem stray_byte_and_pair_in_bounds :
    (⟨1, some 1⟩ : Utf8.Fault).IsWithin [0x61, 0xFF, 0x0D, 0x0A] ∧ IsCut "é\r\nb" 0 2 := by
  obtain ⟨-, hsearched, hcut, -⟩ := nothing_out_of_bounds
  obtain ⟨s, hstart, hplace⟩ := (hcut "é\r\nb").2.1 [] 2 [3] (by decide)
  obtain rfl : {} = s := Option.some.inj hstart
  have hscan : utf8.scan ([0xFF] ++ [0x0D, 0x0A]) =
      .malformed [0xFF] :: utf8.scan [0x0D, 0x0A] := by
    decide +kernel
  have hfault := Utf8.fault?_of_run hscan "a"
  rw [if_neg (by decide +kernel)] at hfault
  exact ⟨hsearched _ _ hfault, hplace (Nat.zero_le 2)⟩

end Lexicon
