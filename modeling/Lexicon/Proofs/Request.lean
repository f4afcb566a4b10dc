import Lexicon.CommandLine.Parser
import Lexicon.Proofs.Config
import Lexicon.Proofs.Utf8
import Mathlib.Data.List.Nodup

/-! Command lines that give each option at most once, with its value behind an equals sign, and each
switch at most once. They say the same in every order. -/

namespace Lexicon

structure Spelling {ε α : Type} (read : String → Except ε α) where
  text : String
  value : α
  read_eq : read text = .ok value

abbrev Setting.Value : Setting → Type
  | input | output => { p : Path // p.bytes ≠ [] }
  | delimiter => Char
  | ratioThreshold => Spelling Binary64.read
  | lengthThreshold => Spelling (Natural.read Options.lengthLimit)
  | termsName | varsName | constName => String

def Setting.written : (s : Setting) → s.Value → Bytes
  | input, p | output, p => p.1.bytes
  | delimiter, c => Utf8.encode (String.singleton c)
  | ratioThreshold, spelling => Utf8.encode spelling.text
  | lengthThreshold, spelling => Utf8.encode spelling.text
  | termsName, name | varsName, name | constName, name => Utf8.encode name

def Options.put (o : Options) : (s : Setting) → s.Value → Options
  | .input, p => { o with input := p.1 }
  | .output, p => { o with output := some p.1 }
  | .delimiter, c => { o with delimiter := c }
  | .ratioThreshold, spelling => { o with ratioThreshold := spelling.value }
  | .lengthThreshold, spelling => { o with lengthThreshold := spelling.value }
  | .termsName, name => { o with names := { o.names with terms := name } }
  | .varsName, name => { o with names := { o.names with vars := name } }
  | .constName, name => { o with names := { o.names with consts := name } }

theorem Options.set_written (o : Options) (s : Setting) (value : s.Value) :
    o.set s (s.written value) = .ok (o.put s value) := by
  have hpath (p : { p : Path // p.bytes ≠ [] }) : readPath s p.1.bytes = .ok p.1 := if_neg p.2
  have htext {α : Type} (text : String) (read : String → Except ValueFault α) :
      readText s (Utf8.encode text) read = (read text).mapError (.invalidValue s text) := by
    simp [readText, Reader.decode?]
  cases s with
  | input | output =>
    rw [set, Setting.written, hpath]
    rfl
  | delimiter =>
    rw [set, Setting.written, htext, readDelimiter, String.toList_singleton]
    rfl
  | ratioThreshold | lengthThreshold =>
    rw [set, Setting.written, htext, value.read_eq]
    rfl
  | termsName | varsName | constName =>
    rw [set, Setting.written, htext]
    rfl

inductive Argument where
  | setting (s : Setting) (value : s.Value)
  | toggle (s : Switch)

namespace Argument

def flag : Argument → Flag
  | setting s _ => .setting s
  | toggle s => .toggle s

def attachment : Argument → Bytes
  | setting s value => Utf8.encode "=" ++ s.written value
  | toggle _ => []

def word (a : Argument) : Bytes := Utf8.encode ("--" ++ a.flag.name) ++ a.attachment

def apply (o : Options) : Argument → Options
  | setting s value => o.put s value
  | toggle s => o.turnOn s

/-- Arguments of different flags do not meddle with each other. -/
theorem apply_comm (o : Options) {a b : Argument} (h : a.flag ≠ b.flag) :
    b.apply (a.apply o) = a.apply (b.apply o) := by
  rcases a with ⟨s, value⟩ | s <;> rcases b with ⟨s', value'⟩ | s' <;> cases s <;> cases s' <;>
    try rfl
  -- What is left are two arguments of one flag.
  all_goals exact absurd rfl h

end Argument

theorem Flag.mem_all (f : Flag) : f ∈ all := by
  cases f with
  | setting s => cases s <;> decide
  | toggle s => cases s <;> decide
  | help => decide
  | version => decide

namespace CommandLine.State

theorem ofName?_name (f : Flag) :
    (utf8.decode? (Utf8.encode f.name)).bind Flag.ofName? = some f := by
  have hdecode : utf8.decode? (Utf8.encode f.name) = some f.name := by simp [Reader.decode?]
  have hfound : ∀ f ∈ Flag.all, Flag.ofName? f.name = some f := by decide
  rw [hdecode, Option.bind_some, hfound f f.mem_all]

theorem equals_not_mem_name (f : Flag) : equals ∉ Utf8.encode f.name := by
  have hnames : ∀ f ∈ Flag.all, equals ∉ Utf8.encode f.name := by decide
  exact hnames f f.mem_all

theorem readLong_value (st : State) (s : Setting) (value : Bytes) :
    st.readLong (Utf8.encode s.name ++ equals :: value) = st.attach s value := by
  have hflag := ofName?_name (.setting s)
  have hname : ∀ b ∈ Utf8.encode s.name, (b != equals) = true :=
    fun b hb => bne_iff_ne.mpr (ne_of_mem_of_not_mem hb (equals_not_mem_name (.setting s)))
  have hfront : (Utf8.encode s.name ++ equals :: value).takeWhile (· != equals) = _ :=
    List.takeWhile_append_of_pos hname
  have hback : (Utf8.encode s.name ++ equals :: value).dropWhile (· != equals) = _ :=
    List.dropWhile_append_of_pos hname
  simp only [Flag.name] at hflag
  simp [readLong, hfront, hback, hflag]

theorem readLong_switch (st : State) (s : Switch) :
    st.readLong (Utf8.encode s.name) = st.flip s := by
  have hflag := ofName?_name (.toggle s)
  have hmem := equals_not_mem_name (.toggle s)
  have hfront : (Utf8.encode s.name).takeWhile (· != equals) = Utf8.encode s.name :=
    List.takeWhile_eq_self_iff.mpr fun b hb => bne_iff_ne.mpr (ne_of_mem_of_not_mem hb hmem)
  simp only [Flag.name] at hflag hmem
  simp [readLong, hfront, hflag, hmem]

/-- An argument is carried out at once, since no option is waiting to be checked. -/
theorem readWord_argument {st : State} (hpending : st.pending = none) {a : Argument}
    (hnew : a.flag ∉ st.used) :
    st.readWord a.word =
      .ok { st with options := a.apply st.options, used := a.flag :: st.used } := by
  have hsettle : st.settle = .ok st := by rw [settle, hpending]
  have huse : st.use a.flag = .ok { st with used := a.flag :: st.used } := if_neg hnew
  have hdashes (name : String) (rest : Bytes) :
      st.readWord (Utf8.encode ("--" ++ name) ++ rest) =
        st.readLong (Utf8.encode name ++ rest) := by
    rw [Utf8.encode_append]
    rfl
  cases a with
  | setting s value =>
    have hassign : st.assign s (s.written value) =
        .ok { st with options := st.options.put s value, used := .setting s :: st.used } := by
      rw [Argument.flag] at huse
      simp only [assign, huse, bind, Except.bind, Options.set_written]
    show st.readWord (Utf8.encode ("--" ++ s.name) ++ ([equals] ++ s.written value)) = _
    rw [hdashes, List.singleton_append, readLong_value, attach, hsettle]
    show (st.assign s (s.written value)).mapError _ = _
    rw [hassign]
    rfl
  | toggle s =>
    show st.readWord (Utf8.encode ("--" ++ s.name) ++ []) = _
    rw [Argument.flag] at huse
    rw [hdashes, List.append_nil, readLong_switch, flip, hsettle]
    show ((st.use (.toggle s)).map _).mapError _ = _
    rw [huse]
    rfl

theorem word_ne_dashes (a : Argument) : a.word ≠ [dash, dash] := by
  intro h
  have hnames : ∀ f ∈ Flag.all, Utf8.encode f.name ≠ [] := by decide
  have hdashes : Utf8.encode "--" = [dash, dash] := by decide
  rw [Argument.word, Utf8.encode_append, hdashes] at h
  simp [hnames _ a.flag.mem_all] at h

theorem readWords_arguments (args : List Argument) (st : State) (hpending : st.pending = none)
    (hnodup : (args.map Argument.flag).Nodup) (hnew : ∀ a ∈ args, a.flag ∉ st.used) :
    (st.readWords (args.map Argument.word)).map (·.options) =
      .ok (args.foldl Argument.apply st.options) := by
  induction args generalizing st with
  | nil =>
    show (st.settle.mapError Interruption.refused).map _ = _
    rw [settle, hpending]
    rfl
  | cons a args ih =>
    rw [List.map_cons, List.nodup_cons] at hnodup
    have hread := readWord_argument hpending (hnew a List.mem_cons_self)
    rw [List.map_cons]
    unfold readWords
    rw [if_neg (word_ne_dashes a), hread]
    refine ih _ hpending hnodup.2 fun other hother => ?_
    rw [List.mem_cons, not_or]
    constructor
    · intro heq
      exact hnodup.1 (heq ▸ List.mem_map_of_mem hother)
    · exact hnew other (List.mem_cons_of_mem a hother)

end CommandLine.State

structure Request where
  value? : (s : Setting) → Option s.Value
  isOn : Switch → Bool

namespace Request

/-- The uses of options and switches that ask for it, in the order of the help text. -/
def arguments (r : Request) : List Argument :=
  (Setting.all.filterMap fun s => (r.value? s).map (.setting s)) ++
    (Switch.all.filter r.isOn).map .toggle

def options (r : Request) : Options where
  input := ((r.value? .input).map Subtype.val).getD (.ofString "symbol_names.txt")
  output := (r.value? .output).map Subtype.val
  delimiter := (r.value? .delimiter).getD '_'
  ratioThreshold := ((r.value? .ratioThreshold).map Spelling.value).getD (.ofQuotient false 1 2)
  lengthThreshold := ((r.value? .lengthThreshold).map Spelling.value).getD 3
  names :=
    { terms := (r.value? .termsName).getD "terms.txt"
      vars := (r.value? .varsName).getD "vars.txt"
      consts := (r.value? .constName).getD "const.txt" }
  stats := r.isOn .stats
  quiet := r.isOn .quiet
  verbose := r.isOn .verbose
  dryRun := r.isOn .dryRun

def give (r : Request) (o : Options) (s : Setting) : Options := (r.value? s).elim o (o.put s)

def toggle (r : Request) (o : Options) (s : Switch) : Options := if r.isOn s then o.turnOn s else o

/-- Each value that is given takes the place of what was there before. -/
theorem give_eq (r : Request) (o : Options) (s : Setting) :
    r.give o s =
      match s with
      | .input => { o with input := ((r.value? .input).map Subtype.val).getD o.input }
      | .output => { o with output := ((r.value? .output).map Subtype.val).or o.output }
      | .delimiter => { o with delimiter := (r.value? .delimiter).getD o.delimiter }
      | .ratioThreshold =>
        { o with ratioThreshold :=
            ((r.value? .ratioThreshold).map Spelling.value).getD o.ratioThreshold }
      | .lengthThreshold =>
        { o with lengthThreshold :=
            ((r.value? .lengthThreshold).map Spelling.value).getD o.lengthThreshold }
      | .termsName =>
        { o with names := { o.names with terms := (r.value? .termsName).getD o.names.terms } }
      | .varsName =>
        { o with names := { o.names with vars := (r.value? .varsName).getD o.names.vars } }
      | .constName =>
        { o with names := { o.names with consts := (r.value? .constName).getD o.names.consts } }
      := by
  unfold give
  cases s <;> dsimp only <;> cases r.value? _ <;> rfl

theorem toggle_eq (r : Request) (o : Options) (s : Switch) :
    r.toggle o s =
      match s with
      | .stats => { o with stats := r.isOn .stats || o.stats }
      | .quiet => { o with quiet := r.isOn .quiet || o.quiet }
      | .verbose => { o with verbose := r.isOn .verbose || o.verbose }
      | .dryRun => { o with dryRun := r.isOn .dryRun || o.dryRun } := by
  unfold toggle
  cases s <;> dsimp only <;> cases r.isOn _ <;> rfl

theorem foldl_arguments (r : Request) : r.arguments.foldl Argument.apply {} = r.options := by
  have hsettings (o : Options) :
      (Setting.all.filterMap fun s => (r.value? s).map (Argument.setting s)).foldl
        Argument.apply o = Setting.all.foldl r.give o := by
    rw [List.foldl_filterMap]
    congr 1
    funext o s
    unfold give
    cases r.value? s <;> rfl
  have hswitches (o : Options) :
      ((Switch.all.filter r.isOn).map Argument.toggle).foldl Argument.apply o =
        Switch.all.foldl r.toggle o := by
    rw [List.foldl_map, List.foldl_filter]
    rfl
  rw [arguments, List.foldl_append, hsettings, hswitches]
  simp only [Setting.all, Switch.all, List.foldl_cons, List.foldl_nil, give_eq, toggle_eq,
    Bool.or_false, Option.or_none]
  rfl

theorem nodup_flags (r : Request) : (r.arguments.map Argument.flag).Nodup := by
  rw [arguments, List.map_append, List.map_filterMap, List.map_map, List.nodup_append]
  refine ⟨?settings, ?switches, ?apart⟩
  case settings =>
    apply List.Nodup.filterMap _ (by decide)
    intro s s' f hs hs'
    simp only [Option.mem_def, Option.map_map, Option.map_eq_some_iff] at hs hs'
    obtain ⟨_, -, rfl⟩ := hs
    obtain ⟨_, -, heq⟩ := hs'
    cases heq
    rfl
  case switches =>
    apply List.Nodup.map _ (List.Nodup.filter _ (by decide))
    intro s s' heq
    cases heq
    rfl
  case apart =>
    intro f hs f' hs'
    simp only [List.mem_filterMap, Option.map_map, Option.map_eq_some_iff, List.mem_map] at hs hs'
    obtain ⟨_, -, _, -, rfl⟩ := hs
    obtain ⟨_, -, rfl⟩ := hs'
    exact fun heq => nomatch heq

theorem foldl_perm {args : List Argument} (r : Request) (h : args.Perm r.arguments) :
    args.foldl Argument.apply {} = r.options := by
  rw [← foldl_arguments]
  refine (h.symm.foldl_eq' ?_ _).symm
  intro a ha b hb o
  by_cases heq : a = b
  · rw [heq]
  · refine Argument.apply_comm o fun hflag => heq ?_
    exact List.inj_on_of_nodup_map r.nodup_flags ha hb hflag

/-- The configuration that is asked for. If no output directory is named it is the working one. -/
def config (r : Request) : Config where
  input := r.options.input
  outputDirectory := ((r.value? .output).map Subtype.val).getD (.ofString ".")
  delimiter := r.options.delimiter
  noise := ⟨r.options.ratioThreshold, r.options.lengthThreshold⟩
  names := r.options.names
  dryRun := r.isOn .dryRun
  quiet := r.isOn .quiet
  verbose := r.isOn .verbose
  showStats := r.isOn .stats

end Request

/-- In whatever order options and switches are given, they are read as the values that they hold,
with the defaults for the others. They make a configuration of these values if it is sound, and
otherwise the first of its faults is reported. -/
theorem request_read_in_any_order (r : Request) {args : List Argument}
    (horder : args.Perm r.arguments) :
    CommandLine.parse (args.map Argument.word) = .ok r.options ∧
    (∀ c, r.options.config = .ok c ↔ r.config.IsSound ∧ c = r.config) ∧
    ∀ failure, r.options.config = .error failure ↔
      ∃ fault, r.config.Reports fault ∧ failure = .misconfigured fault := by
  have hconfig : r.options.toConfig = r.config := rfl
  refine ⟨?parsed, ?accepted, ?refused⟩
  case parsed =>
    have hnodup : (args.map Argument.flag).Nodup :=
      (horder.map Argument.flag).nodup_iff.mpr r.nodup_flags
    have hrun := CommandLine.State.readWords_arguments args {} rfl hnodup (by simp)
    rw [CommandLine.parse, hrun, r.foldl_perm horder]
  case accepted =>
    intro c
    rw [← Config.fault?_eq_none_iff, Options.config, hconfig]
    cases r.config.fault? with
    | none => simp [eq_comm]
    | some fault => simp
  case refused =>
    intro failure
    simp only [← Config.fault?_eq_some_iff, Options.config, hconfig]
    cases r.config.fault? with
    | none => simp
    | some fault => simp [eq_comm]

/-- Values that look like flags and equals signs, in the reverse of the usual order. -/
def awkwardRequest : Request where
  value?
    | .input => some ⟨⟨[0xFF]⟩, by decide⟩
    | .delimiter => some '='
    | .termsName => some "--quiet"
    | _ => none
  isOn s := s = .verbose

theorem awkward_request_read :
    ∃ o, CommandLine.parse [Utf8.encode "--verbose", Utf8.encode "--terms-name=--quiet",
        Utf8.encode "--delimiter==", Utf8.encode "--input=" ++ [0xFF]] = .ok o ∧
      ∃ c, o.config = .ok c ∧ c.input = ⟨[0xFF]⟩ ∧ c.outputDirectory = .ofString "." ∧
        c.delimiter = '=' ∧ c.names = ⟨"--quiet", "vars.txt", "const.txt"⟩ ∧ c.quiet = false ∧
        c.verbose = true := by
  have horder : [Argument.toggle .verbose, .setting .termsName "--quiet", .setting .delimiter '=',
      .setting .input ⟨⟨[0xFF]⟩, by decide⟩].Perm awkwardRequest.arguments :=
    List.reverse_perm awkwardRequest.arguments
  obtain ⟨hparse, haccepted, -⟩ := request_read_in_any_order awkwardRequest horder
  have hsound : awkwardRequest.config.IsSound := by
    refine ⟨?_, ?_, ?_⟩
    · rw [Binary64.isShare_iff]
      decide +kernel
    · intro kind
      cases kind <;> decide +kernel
    · rw [FileNames.areDistinct_iff]
      decide +kernel
  refine ⟨_, hparse, _, (haccepted _).mpr ⟨hsound, rfl⟩, rfl, rfl, rfl, rfl, rfl, rfl⟩

end Lexicon
