import WifiDirect.Monitor
import WifiDirect.Proofs.SettingsTexts
import WifiDirect.Proofs.SinkDelivery

/-!
# Layers of settings

`Monitor.settings_resolved`: each setting is the first that the command line, the environment and the
settings file choose, or the default. A file that is rejected chooses nothing, and leaves all else as
it is but for a record. Arguments that are no options decide a run before it has begun: the first of
them says what the run comes to, whatever the environment, the file and the input are.
-/

namespace WifiDirect

/-! ### Arguments -/

/-- An option that chooses an interface. The argument behind the flag is its value, whatever it is. -/
structure InterfaceOption where
  flag : String
  isFlag : flag = "--interface" ∨ flag = "-i"
  value : String

namespace InterfaceOption

/-- The arguments that an option takes. -/
def words (o : InterfaceOption) : List String :=
  [o.flag, o.value]

/-- The interface that options choose. -/
def last? (options : List InterfaceOption) : Option String :=
  options.getLast?.map value

theorem last?_cons (o : InterfaceOption) (options : List InterfaceOption) :
    last? (o :: options) = (last? options).or (some o.value) := by
  unfold last?
  rw [List.getLast?_cons]
  rcases options.getLast? with _ | o' <;> rfl

end InterfaceOption

namespace Command

open InterfaceOption

theorem parseFrom_cons (interface? : Option String) (o : InterfaceOption) (rest : List String) :
    parseFrom interface? (o.words ++ rest) = parseFrom (some o.value) rest := by
  obtain ⟨flag, rfl | rfl, value⟩ := o <;> rfl

theorem parseFrom_version (interface? : Option String) {flag : String}
    (h : flag = "--version" ∨ flag = "-V") (rest : List String) :
    parseFrom interface? (flag :: rest) = .ok .version := by
  unfold parseFrom
  rw [if_pos (by simp [isVersion, h])]

theorem parseFrom_missing (interface? : Option String) {flag : String}
    (h : flag = "--interface" ∨ flag = "-i") :
    parseFrom interface? [flag] = .error .missingInterface := by
  obtain rfl | rfl := h <;> rfl

theorem parseFrom_unknown (interface? : Option String) {argument : String}
    (h : argument ∉ ["--version", "-V", "--interface", "-i"]) (rest : List String) :
    parseFrom interface? (argument :: rest) = .error (.unknown argument) := by
  simp only [List.mem_cons, List.not_mem_nil, or_false, not_or] at h
  unfold parseFrom
  rw [if_neg (by simp [isVersion, h]), if_neg (by simp [isInterface, h])]

/-- **Options** are read one after the other; the last one counts. -/
theorem parseFrom_options (interface? : Option String) (options : List InterfaceOption)
    (rest : List String) : parseFrom interface? (options.flatMap words ++ rest) =
      parseFrom ((last? options).or interface?) rest := by
  induction options generalizing interface? with
  | nil => rfl
  | cons o options ih =>
    rw [List.flatMap_cons, List.append_assoc, parseFrom_cons, ih, last?_cons, Option.or_assoc]
    rfl

end Command

namespace Monitor

open InterfaceOption

/-- The first argument that is no option decides: it asks for the version, is unknown or lacks its
value. -/
inductive Decides : List String → Outcome → Prop
  | version {flag : String} (h : flag = "--version" ∨ flag = "-V") (rest : List String) :
      Decides (flag :: rest) ⟨"p2pmon-linux 0.1.0\n", [], none, none⟩
  | unknown {argument : String} (h : argument ∉ ["--version", "-V", "--interface", "-i"])
      (rest : List String) :
      Decides (argument :: rest) ⟨"", [], some (.argument (.unknown argument)), none⟩
  | missing {flag : String} (h : flag = "--interface" ∨ flag = "-i") :
      Decides [flag] ⟨"", [], some (.argument .missingInterface), none⟩

/-- **A decision does not depend on what surrounds the run.** -/
theorem Decides.run_eq {tail : List String} {o : Outcome} (h : Decides tail o)
    (options : List InterfaceOption) (s : Surroundings) :
    run (options.flatMap words ++ tail) s = o := by
  rw [run, Command.parse, Command.parseFrom_options]
  cases h with
  | version h rest =>
    have htext : versionText ++ "\n" = "p2pmon-linux 0.1.0\n" := by decide
    rw [Command.parseFrom_version _ h, ← htext]
    rfl
  | unknown h rest =>
    rw [Command.parseFrom_unknown _ h]
    rfl
  | missing h =>
    rw [Command.parseFrom_missing _ h]
    rfl

/-- Arguments are options, up to the first that decides. -/
theorem options_or_decides : ∀ arguments : List String,
    (∃ options : List InterfaceOption, arguments = options.flatMap words) ∨
      ∃ (options : List InterfaceOption) (tail : List String) (o : Outcome),
        arguments = options.flatMap words ++ tail ∧ Decides tail o
  | [] => Or.inl ⟨[], rfl⟩
  | argument :: rest => by
    by_cases hversion : argument = "--version" ∨ argument = "-V"
    · exact Or.inr ⟨[], _, _, rfl, .version hversion rest⟩
    by_cases hflag : argument = "--interface" ∨ argument = "-i"
    · rcases rest with _ | ⟨value, rest⟩
      · exact Or.inr ⟨[], _, _, rfl, .missing hflag⟩
      · rcases options_or_decides rest with ⟨options, rfl⟩ | ⟨options, tail, o, rfl, h⟩
        · exact Or.inl ⟨⟨argument, hflag, value⟩ :: options, rfl⟩
        · exact Or.inr ⟨⟨argument, hflag, value⟩ :: options, tail, o, rfl, h⟩
    · rw [not_or] at hversion hflag
      exact Or.inr ⟨[], _, _, rfl, .unknown (by simp [hversion, hflag]) rest⟩

/-! ### Records of a file that is left out of account -/

/-- A record of something else. -/
def IsOther (r : LogRecord) : Prop :=
  ∀ e, r ≠ fileRecord e

theorem isOther_of_level {r : LogRecord} (h : r.level ≠ .warn) : IsOther r := by
  rintro e rfl
  exact h rfl

theorem isOther_of_message {r : LogRecord} (h : r.message ≠ "config file ignored, using defaults") :
    IsOther r := by
  rintro e rfl
  exact h rfl

/-- Decoding records other things. -/
theorem isOther_of_mem_decodeRecords (interface : String) (n : Notification) :
    ∀ r ∈ (Delivery.ofNotification interface n).decodeRecords, IsOther r := by
  intro r hr
  unfold Delivery.ofNotification at hr
  rcases hdecode : n.decode with rejection | decoded
  · rw [hdecode] at hr
    rw [List.mem_singleton.1 hr]
    rcases rejection with ⟨callback, reason⟩ | ⟨table, value⟩
    · exact isOther_of_level nofun
    · exact isOther_of_message (by simp [Rejection.record])
  · rw [hdecode] at hr
    refine isOther_of_level ?_
    rcases List.mem_append.1 hr with hnote | hlast
    · rw [n.yields_isTrace_decode decoded hdecode r hnote]
      exact nofun
    · rw [List.mem_singleton.1 hlast]
      exact nofun

theorem reportText_cases (interface : String) (cs : List Char) :
    Replay.reportText interface cs = .skipped ∨ Replay.reportText interface cs = .unparsable ∨
      ∃ n, Replay.reportText interface cs = .delivered (.ofNotification interface n) := by
  unfold Replay.reportText
  dsimp only
  split_ifs
  · exact Or.inl rfl
  · rcases Replay.notification? (Text.trim cs) with _ | n
    · exact Or.inr (Or.inl rfl)
    · exact Or.inr (Or.inr ⟨n, rfl⟩)

theorem isOther_of_mem_records (interface : String) (output : Output) (number : Nat)
    (cs : List Char) :
    ∀ r ∈ (Replay.reportText interface cs).records interface output number, IsOther r.record := by
  intro r hr
  rcases reportText_cases interface cs with hskipped | hunparsable | ⟨n, hdelivered⟩
  · rw [hskipped] at hr
    simp [Replay.Report.records] at hr
  · rw [hunparsable] at hr
    rw [List.mem_singleton.1 hr]
    exact isOther_of_message (by simp)
  · rw [hdelivered] at hr
    rcases List.mem_append.1 hr with hdecode | hcall
    · obtain ⟨r', hr', rfl⟩ := List.mem_map.1 hdecode
      exact isOther_of_mem_decodeRecords interface n r' hr'
    · rcases output with _ | _
      · obtain ⟨call, -, rfl⟩ := List.mem_map.1 hcall
        exact isOther_of_level nofun
      · simp at hcall

theorem exists_reportText_of_mem {interface : String} {lines : List Bytes} {r : Replay.Report}
    (hr : r ∈ (Replay.ofLines interface lines).reports) :
    ∃ cs, r = Replay.reportText interface cs := by
  induction lines with
  | nil => simp [Replay.ofLines] at hr
  | cons line lines ih =>
    unfold Replay.ofLines Replay.report at hr
    rcases hdecode : Utf8.decode line with e | cs
    · rw [hdecode] at hr
      simp [Except.map] at hr
    · rw [hdecode] at hr
      rcases List.mem_cons.1 hr with rfl | hr
      · exact ⟨cs, rfl⟩
      · exact ih hr

theorem isOther_of_mem_recordsFrom {interface : String} {output : Output}
    {reports : List Replay.Report} (h : ∀ r ∈ reports, ∃ cs, r = Replay.reportText interface cs)
    (counted : Nat) :
    ∀ r ∈ Replay.recordsFrom interface output counted reports, IsOther r.record := by
  induction reports generalizing counted with
  | nil => simp [Replay.recordsFrom]
  | cons report reports ih =>
    intro r hr
    unfold Replay.recordsFrom at hr
    rcases List.mem_append.1 hr with hfirst | hrest
    · obtain ⟨cs, rfl⟩ := h report List.mem_cons_self
      exact isOther_of_mem_records interface output _ cs r hfirst
    · exact ih (fun r hr => h r (List.mem_cons_of_mem _ hr)) _ r hrest

theorem fileRecord_injective : Function.Injective fileRecord := by
  intro e e' h
  cases e <;> cases e' <;> simp_all [fileRecord, Settings.FileError.name]

/-- Of all records of a run, the one of its file is the first. -/
theorem eq_of_mem_allRecords {settings : Settings} {fileError? : Option Settings.FileError}
    {reports : List Replay.Report} {tally? : Option Replay.Tally}
    (h : ∀ r ∈ reports, ∃ cs, r = Replay.reportText settings.interface cs)
    {r : Replay.TargetedRecord} (hr : r ∈ allRecords settings fileError? reports tally?)
    {e : Settings.FileError} (he : r.record = fileRecord e) :
    fileError? = some e ∧ r.target = Replay.programTarget := by
  rcases List.mem_append.1 hr with hr | hclosing
  · rcases List.mem_append.1 hr with hfile | hr
    · obtain ⟨e', he', rfl⟩ := List.mem_map.1 hfile
      rw [Option.mem_toList] at he'
      rw [← fileRecord_injective he]
      exact ⟨he', rfl⟩
    · rcases List.mem_cons.1 hr with rfl | hr
      · exact absurd he (isOther_of_level (by simp [openingRecord]) e)
      · exact absurd he (isOther_of_mem_recordsFrom h 0 r hr e)
  · obtain ⟨tally, -, rfl⟩ := List.mem_map.1 hclosing
    exact absurd he (isOther_of_level (by simp [closingRecord]) e)

/-- **A file that is left out of account is on record** just where the filter keeps the record. -/
theorem recordsIgnoredFile_replay (loaded : Settings.Loaded) (interface? : Option String)
    (input : Bytes) : (replay loaded interface? input).recordsIgnoredFile = true ↔
      ∃ e, loaded.fileError? = some e ∧
        Log.keeps loaded.settings.logFilter Replay.programTarget (fileRecord e) = true := by
  have hmem (e : Settings.FileError) : fileRecord e ∈ (replay loaded interface? input).records ↔
      loaded.fileError? = some e ∧
        Log.keeps loaded.settings.logFilter Replay.programTarget (fileRecord e) = true := by
    simp only [replay, List.mem_map, List.mem_filter]
    constructor
    · rintro ⟨r, ⟨hr, hkeeps⟩, he⟩
      obtain ⟨hfile, htarget⟩ := eq_of_mem_allRecords (fun _ => exists_reportText_of_mem) hr he
      rw [htarget, he] at hkeeps
      exact ⟨hfile, hkeeps⟩
    · rintro ⟨hfile, hkeeps⟩
      refine ⟨⟨Replay.programTarget, fileRecord e⟩, ⟨?_, hkeeps⟩, rfl⟩
      rw [allRecords, hfile]
      simp
  rw [Outcome.recordsIgnoredFile, Bool.or_eq_true, decide_eq_true_eq, decide_eq_true_eq, hmem, hmem]
  constructor
  · rintro (h | h)
    · exact ⟨_, h⟩
    · exact ⟨_, h⟩
  · rintro ⟨_ | _, h⟩
    · exact Or.inl h
    · exact Or.inr h

/-! ### Settings -/

/-- Options alone leave the run to its settings. -/
theorem run_options (options : List InterfaceOption) (s : Surroundings) :
    run (options.flatMap words) s =
      replay ⟨(Settings.load s.environment s.file).settings.withInterface (last? options),
        (Settings.load s.environment s.file).fileError?⟩ none s.input := by
  rw [run, Command.parse, ← List.append_nil (options.flatMap words), Command.parseFrom_options,
    Option.or_none]
  rfl

/-- How the settings of a run are resolved. -/
structure Resolved (options : List InterfaceOption) (s : Surroundings) (choices : Settings.Choices)
    (settings : Settings) : Prop where
  interface : settings.interface = (((last? options).or
    (s.environment.interface?.filter (· ≠ ""))).or choices.interface?).getD "p2p0"
  output : settings.output =
    ((s.environment.output?.bind Output.parse?).or choices.output?).getD .log
  logFilter : settings.logFilter =
    ((s.environment.logFilter?.filter (· ≠ "")).or choices.logFilter?).getD "info"

/-- A rejected file chooses nothing. -/
theorem exists_resolved (options : List InterfaceOption) (s : Surroundings) :
    ∃ choices, Resolved options s choices
        ((Settings.load s.environment s.file).settings.withInterface (last? options)) ∧
      (s.file.TakenFor (.ok choices) ∨ choices = .unset ∧ ∃ e, s.file.TakenFor (.error e)) := by
  have hresolved (choices : Settings.Choices)
      (h : s.file.load.settings = choices.orElse .default) : Resolved options s choices
        ((Settings.load s.environment s.file).settings.withInterface (last? options)) := by
    constructor
    · show (last? options).getD
        ((s.environment.interface?.filter (· ≠ "")).getD s.file.load.settings.interface) = _
      rw [h, Option.getD_or, Option.getD_or]
      rfl
    · show (s.environment.output?.bind Output.parse?).getD s.file.load.settings.output = _
      rw [h, Option.getD_or]
      rfl
    · show (s.environment.logFilter?.filter (· ≠ "")).getD s.file.load.settings.logFilter = _
      rw [h, Option.getD_or]
      rfl
  rcases hfile : s.file.choices with e | choices
  · have hload : s.file.load.settings = .default := by
      rw [Settings.File.load, hfile]
    exact ⟨.unset, hresolved .unset hload, Or.inr ⟨rfl, e, Settings.File.choices_eq_iff.1 hfile⟩⟩
  · have hload : s.file.load.settings = choices.orElse .default := by
      rw [Settings.File.load, hfile]
    exact ⟨choices, hresolved choices hload, Or.inl (Settings.File.choices_eq_iff.1 hfile)⟩

theorem fileError?_load {s : Surroundings} {e : Settings.FileError} :
    (Settings.load s.environment s.file).fileError? = some e ↔ s.file.TakenFor (.error e) := by
  rw [← Settings.File.choices_eq_iff, Settings.load, Settings.File.load]
  rcases s.file.choices with e' | choices <;> simp

/-- **How a run comes by its settings.** -/
theorem settings_resolved :
    -- where all arguments are options, each setting comes from the first layer that chooses it
    (∀ (options : List InterfaceOption) (s : Surroundings), ∃ settings choices fileError?,
      run (options.flatMap words) s = replay ⟨settings, fileError?⟩ none s.input ∧
      Resolved options s choices settings ∧
      -- a rejected file chooses nothing; it is an error, on record where the filter keeps the record
      (s.file.TakenFor (.ok choices) ∨ choices = .unset ∧ ∃ e, s.file.TakenFor (.error e)) ∧
      (∀ e, fileError? = some e ↔ s.file.TakenFor (.error e)) ∧
      ((run (options.flatMap words) s).recordsIgnoredFile = true ↔
        ∃ e, s.file.TakenFor (.error e) ∧
          Log.keeps settings.logFilter Replay.programTarget (fileRecord e) = true)) ∧
    -- an output is chosen by its word, in a file also as the member of a table
    (∀ s o, Output.parse? s = some o ↔ s = o.word) ∧
    (∀ (v : Settings.Value) o, v.output? = some o ↔ v.NamesOutput o) ∧
    -- a file is taken for one thing, and for every choice there is one in each form
    (∀ file : Settings.File, ∃! r, file.TakenFor r) ∧
    (∀ (choices : Settings.Choices) form,
      (Settings.File.content (choices.text form)).TakenFor (.ok choices)) ∧
    -- otherwise the first argument that is no option decides alone, and no line is read
    (∀ arguments : List String,
      (∃ options : List InterfaceOption, arguments = options.flatMap words) ∨
        ∃ (options : List InterfaceOption) (tail : List String) (o : Outcome),
          arguments = options.flatMap words ++ tail ∧ Decides tail o) ∧
    ∀ (options : List InterfaceOption) (tail : List String) (o : Outcome), Decides tail o →
      ∀ s, run (options.flatMap words ++ tail) s = o := by
  refine ⟨fun options s => ?_, fun _ _ => Output.parse?_eq_some_iff,
    fun _ _ => Settings.Value.output?_eq_some_iff, fun file => ?_,
    fun choices form => Settings.File.choices_eq_iff.1 (Settings.File.choices_text choices form),
    options_or_decides, fun options tail o h => h.run_eq options⟩
  · obtain ⟨choices, hresolved, hfile⟩ := exists_resolved options s
    refine ⟨_, choices, _, run_options options s, hresolved, hfile, fun e => fileError?_load, ?_⟩
    rw [run_options, recordsIgnoredFile_replay]
    exact exists_congr fun e => and_congr_left' fileError?_load
  · obtain ⟨r, h⟩ := file.exists_takenFor
    exact ⟨r, h, fun r' h' => h'.choices_eq.symm.trans h.choices_eq⟩

/-- The lines of a file that chooses two interfaces. -/
def twoInterfaces : List Settings.Line :=
  [.assignment ["log_filter".toList] (.text "off".toList),
    .assignment ["interface".toList] (.text "p2p7".toList),
    .assignment ["interface".toList] (.text "p2p8".toList)]

/-- What surrounds a run with a file of lines, and an environment of which one variable is empty and
one names no output. -/
def surroundings (lines : List Settings.Line) : Surroundings where
  environment := ⟨some "p2p1", some "xml", some ""⟩
  file := .content (Utf8.encode (lines.flatMap Settings.Line.written))
  input := []

theorem takenFor_twoInterfaces :
    (surroundings twoInterfaces).file.TakenFor (.error .parsing) := by
  have hlines : Settings.lines? (twoInterfaces.flatMap Settings.Line.written) =
      some twoInterfaces := Settings.lines?_flatMap (by decide)
  have hassignments : Settings.assignments? (twoInterfaces.flatMap Settings.Line.written) =
      some [⟨"log_filter".toList, .text "off".toList⟩, ⟨"interface".toList, .text "p2p7".toList⟩,
        ⟨"interface".toList, .text "p2p8".toList⟩] := by
    rw [Settings.assignments?, hlines]
    rfl
  exact .repeatedKey hassignments (by decide)

/-- What a file chooses that says nothing of the filter. -/
def jsonChoices : Settings.Choices := ⟨some "p2p7", some .json, none⟩

/-- Of two options the last one counts, and an empty interface is one; a file counts as a whole or
not at all, and may name its output by headers. -/
theorem settings_resolved_twoInterfaces :
    run ["-i", "--version", "--interface", ""] (surroundings twoInterfaces) =
        replay ⟨⟨"", .log, "info"⟩, some .parsing⟩ none [] ∧
      run [] (surroundings (jsonChoices.lines .headersBack)) =
        replay ⟨⟨"p2p1", .json, "info"⟩, none⟩ none [] ∧
      run ["-i", "--version", "-V", "-x"] (surroundings twoInterfaces) =
        ⟨"p2pmon-linux 0.1.0\n", [], none, none⟩ := by
  obtain ⟨hoptions, -, -, htaken, htext, -, hdecides⟩ := settings_resolved
  refine ⟨?_, ?_, ?_⟩
  · obtain ⟨settings, choices, fileError?, hrun, hresolved, hchoices, herror, -⟩ :=
      hoptions [⟨"-i", Or.inr rfl, "--version"⟩, ⟨"--interface", Or.inl rfl, ""⟩]
        (surroundings twoInterfaces)
    have hunset : choices = .unset := by
      rcases hchoices with h | ⟨h, -⟩
      · have heq := (htaken _).unique h takenFor_twoInterfaces
        simp at heq
      · exact h
    have hsettings : settings = ⟨"", .log, "info"⟩ := by
      obtain ⟨hinterface, houtput, hfilter⟩ := hresolved
      obtain ⟨interface, output, logFilter⟩ := settings
      subst hunset
      rw [Settings.mk.injEq]
      exact ⟨hinterface, houtput, hfilter⟩
    rw [(herror .parsing).2 takenFor_twoInterfaces, hsettings] at hrun
    exact hrun
  · obtain ⟨settings, choices, fileError?, hrun, hresolved, hchoices, herror, -⟩ :=
      hoptions [] (surroundings (jsonChoices.lines .headersBack))
    have hfile := htext jsonChoices .headersBack
    have htaken' {r : Except Settings.FileError Settings.Choices}
        (h : (surroundings (jsonChoices.lines .headersBack)).file.TakenFor r) : r = .ok jsonChoices :=
      (htaken _).unique h hfile
    have hchosen : choices = jsonChoices := by
      rcases hchoices with h | ⟨-, e, h⟩
      · exact Except.ok.inj (htaken' h)
      · cases htaken' h
    have hnone : fileError? = none := by
      rcases fileError? with _ | e
      · rfl
      · cases htaken' ((herror e).1 rfl)
    have hsettings : settings = ⟨"p2p1", .json, "info"⟩ := by
      obtain ⟨hinterface, houtput, hfilter⟩ := hresolved
      obtain ⟨interface, output, logFilter⟩ := settings
      subst hchosen
      rw [Settings.mk.injEq]
      exact ⟨hinterface, houtput, hfilter⟩
    rw [hnone, hsettings] at hrun
    exact hrun
  · exact hdecides [⟨"-i", Or.inr rfl, "--version"⟩] ["-V", "-x"] _ (.version (Or.inr rfl) ["-x"])
      (surroundings twoInterfaces)

end Monitor

end WifiDirect
