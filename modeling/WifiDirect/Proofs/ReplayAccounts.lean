import WifiDirect.Monitor
import WifiDirect.Proofs.ReplayLines
import WifiDirect.Proofs.SinkDelivery

/-!
# Accounts of a replay

`Monitor.replay_accounts`: each line that counts comes to one of four things, whatever the lines
around it come to, and the account of a run has them all. The runs over two inputs, of which the
first ends its last line, are together the run over both. A line that is no UTF-8 ends a run, and
leaves as it is what the lines before it have come to.
-/

namespace WifiDirect

namespace Replay

/-- A delivery fails just for a status in no table. -/
theorem Report.isUnmapped_delivered (interface : String) (n : Notification) :
    (Report.delivered (.ofNotification interface n)).isUnmapped =
      (n.event matches .error (.unmapped ..)) := by
  rw [isUnmapped]
  cases h : n.event with
  | ok e =>
    rw [Delivery.fate_of_event interface h]
    rfl
  | error rejection =>
    rw [Delivery.fate_of_event_error interface h]
    cases rejection <;> rfl

/-! ### Verdicts -/

/-- What a line that counts comes to. -/
inductive Verdict
  /-- It writes no notification. -/
  | unparsable
  /-- The status of its notification is in no table. -/
  | unmapped
  /-- Its notification is malformed. -/
  | dropped
  /-- The event of its notification is put out. -/
  | putOut (line : String)
  deriving DecidableEq, Repr

/-- The line that is put out. -/
def Verdict.line? : Verdict → Option String
  | .putOut line => some line
  | _ => none

/-- The verdict on the text of a line. -/
inductive ComesTo (interface : String) (text : List Char) : Verdict → Prop
  | unparsable (h : notification? text = none) : ComesTo interface text .unparsable
  | unmapped {n : Notification} {table : StatusTable} {value : Int32}
      (h : notification? text = some n) (hn : n.event = .error (.unmapped table value)) :
      ComesTo interface text .unmapped
  | dropped {n : Notification} {callback : String} {reason : Malformed}
      (h : notification? text = some n) (hn : n.event = .error (.dropped callback reason)) :
      ComesTo interface text .dropped
  | putOut {n : Notification} {e : Event} (h : notification? text = some n)
      (hn : n.event = .ok e) :
      ComesTo interface text (.putOut ((SinkCall.ofEvent e).line interface))

variable {interface : String} {text : List Char} {v : Verdict}

theorem exists_comesTo (interface : String) (text : List Char) : ∃ v, ComesTo interface text v := by
  cases h : notification? text with
  | none => exact ⟨_, .unparsable h⟩
  | some n =>
    cases hn : n.event with
    | ok e => exact ⟨_, .putOut h hn⟩
    | error rejection =>
      cases rejection with
      | dropped callback reason => exact ⟨_, .dropped h hn⟩
      | unmapped table value => exact ⟨_, .unmapped h hn⟩

theorem ComesTo.eq {v' : Verdict} (h : ComesTo interface text v) (h' : ComesTo interface text v') :
    v = v' := by
  cases h <;> cases h' <;> simp_all

theorem exists_forall₂_comesTo (interface : String) (texts : List (List Char)) :
    ∃ verdicts, List.Forall₂ (ComesTo interface) texts verdicts := by
  induction texts with
  | nil => exact ⟨[], .nil⟩
  | cons text texts ih =>
    obtain ⟨v, hv⟩ := exists_comesTo interface text
    obtain ⟨verdicts, hverdicts⟩ := ih
    exact ⟨v :: verdicts, .cons hv hverdicts⟩

/-- **Each line comes to one thing.** -/
theorem existsUnique_comesTo (interface : String) (text : List Char) :
    ∃! v, ComesTo interface text v := by
  obtain ⟨v, hv⟩ := exists_comesTo interface text
  exact ⟨v, hv, fun v' hv' => hv'.eq hv⟩

namespace ComesTo

theorem isUnparsable_weigh (h : ComesTo interface text v) :
    (weigh interface text).isUnparsable = (v == .unparsable) := by
  cases h <;> simp_all [weigh, Report.isUnparsable]

theorem isUnmapped_weigh (h : ComesTo interface text v) :
    (weigh interface text).isUnmapped = (v == .unmapped) := by
  cases h with
  | unparsable h =>
    rw [weigh, h]
    rfl
  | unmapped h hn | dropped h hn | putOut h hn =>
    rw [weigh, h, Report.isUnmapped_delivered, hn]
    rfl

theorem outputLines_weigh (h : ComesTo interface text v) :
    (weigh interface text).outputLines interface .json = v.line?.toList := by
  cases h with
  | unparsable h =>
    rw [weigh, h]
    rfl
  | unmapped h hn | dropped h hn | putOut h hn =>
    rw [weigh, h, Report.outputLines, Delivery.lines_ofNotification, hn]
    rfl

/-- A line that is put out stays one line. -/
theorem newline_not_mem (h : ComesTo interface text v) {line : String} (hline : line ∈ v.line?) :
    '\n' ∉ line.toList := by
  cases h with
  | putOut h hn =>
    cases hline
    intro hmem
    exact absurd (SinkCall.le_of_mem_line hmem) (by decide)
  | _ => cases hline

end ComesTo

/-! ### Reports that count -/

theorem countP_filter_isCounted {p : Report → Bool} (h : ∀ r, p r → r.isCounted)
    (reports : List Report) : (reports.filter Report.isCounted).countP p = reports.countP p := by
  rw [List.countP_filter]
  refine List.countP_congr fun r _ => ?_
  rw [Bool.and_eq_true]
  exact and_iff_left_of_imp (h r)

/-- Lines that do not count leave no trace in the tally. -/
theorem tally_filter (reports : List Report) :
    tally (reports.filter Report.isCounted) = tally reports := by
  have hunparsable : ∀ r : Report, r.isUnparsable → r.isCounted := by
    rintro (_ | _ | _) <;> simp [Report.isUnparsable, Report.isCounted]
  have hunmapped : ∀ r : Report, r.isUnmapped → r.isCounted := by
    rintro (_ | _ | _) <;> simp [Report.isUnmapped, Report.isCounted]
  rw [tally, countP_filter_isCounted (fun _ => id), countP_filter_isCounted hunparsable,
    countP_filter_isCounted hunmapped, tally]

/-- Lines that do not count put nothing out. -/
theorem flatMap_outputLines_filter (output : Output) (reports : List Report) :
    (reports.filter Report.isCounted).flatMap (Report.outputLines interface output) =
      reports.flatMap (Report.outputLines interface output) := by
  induction reports with
  | nil => rfl
  | cons r reports ih =>
    rw [List.flatMap_cons, ← ih]
    cases r <;> rfl

section Texts

variable {texts : List (List Char)} {verdicts : List Verdict}

theorem tally_map_weigh (h : List.Forall₂ (ComesTo interface) texts verdicts) :
    tally (texts.map (weigh interface)) =
      ⟨texts.length, verdicts.count .unparsable, verdicts.count .unmapped⟩ := by
  induction h with
  | nil => rfl
  | cons hv _ ih =>
    rw [tally, Tally.mk.injEq] at ih
    rw [tally, List.map_cons, List.countP_cons, List.countP_cons, List.countP_cons, ih.1, ih.2.1,
      ih.2.2, isCounted_weigh, hv.isUnparsable_weigh, hv.isUnmapped_weigh, List.count_cons,
      List.count_cons]
    rfl

theorem flatMap_outputLines_weigh (h : List.Forall₂ (ComesTo interface) texts verdicts) :
    (texts.map (weigh interface)).flatMap (Report.outputLines interface .json) =
      verdicts.filterMap Verdict.line? := by
  induction h with
  | nil => rfl
  | @cons text v texts verdicts hv _ ih =>
    rw [List.map_cons, List.flatMap_cons, hv.outputLines_weigh, ih, List.filterMap_cons]
    cases v.line? <;> rfl

theorem newline_not_mem_lines (h : List.Forall₂ (ComesTo interface) texts verdicts) :
    ∀ line ∈ verdicts.filterMap Verdict.line?, '\n' ∉ line.toList := by
  induction h with
  | nil => exact nofun
  | cons hv _ ih =>
    intro line hmem
    obtain ⟨v', hv', hline⟩ := List.mem_filterMap.1 hmem
    rcases List.mem_cons.1 hv' with rfl | hv'
    · exact hv.newline_not_mem hline
    · exact ih line (List.mem_filterMap.2 ⟨v', hv', hline⟩)

end Texts

theorem length_eq_counts (verdicts : List Verdict) :
    verdicts.length = verdicts.count .unparsable + verdicts.count .unmapped +
      verdicts.count .dropped + (verdicts.filterMap Verdict.line?).length := by
  induction verdicts with
  | nil => rfl
  | cons v verdicts ih =>
    rw [List.length_cons, ih]
    cases v <;> simp [Verdict.line?, List.filterMap_cons] <;> omega

/-- As many lines are put out as there are line ends. -/
theorem count_newline_join {lines : List String} (h : ∀ line ∈ lines, '\n' ∉ line.toList) :
    (String.join (lines.map (· ++ "\n"))).toList.count '\n' = lines.length := by
  induction lines with
  | nil => rfl
  | cons line lines ih =>
    have hline : line.toList.count '\n' = 0 := List.count_eq_zero.2 (h line List.mem_cons_self)
    rw [List.map_cons, String.join_cons, String.toList_append, String.toList_append,
      List.count_append, List.count_append, hline, ih fun l hl => h l (List.mem_cons_of_mem _ hl),
      List.length_cons]
    exact Nat.add_comm 1 _

/-! ### Lines that are no UTF-8 -/

/-- Whether a line is a whole line before the rest of an input. -/
def IsLine (line rest : Bytes) : Prop :=
  ∃ body, lineFeed ∉ body ∧ (line = body ++ [lineFeed] ∨ line = body ∧ rest = [])

theorem IsLine.of_rest {line rest : Bytes} (h : IsLine line rest) : IsLine line [] := by
  obtain ⟨body, hbody, hline | ⟨hline, -⟩⟩ := h
  · exact ⟨body, hbody, .inl hline⟩
  · exact ⟨body, hbody, .inr ⟨hline, rfl⟩⟩

theorem IsLine.lines_append {line rest : Bytes} (h : IsLine line rest) (hne : line ≠ []) :
    lines (line ++ rest) = line :: lines rest := by
  obtain ⟨body, hbody, rfl | ⟨rfl, rfl⟩⟩ := h
  · rw [List.append_assoc, List.singleton_append, lines_append_cons hbody]
  · rw [List.append_nil, lines_of_not_mem hbody hne]
    rfl

/-- A line that is no UTF-8 breaks off the run at once, whatever follows it. -/
theorem exists_run_eq (interface : String) {line : Bytes} (hbad : ∀ cs, line ≠ Utf8.encode cs) :
    ∃ e, ∀ rest, IsLine line rest → run interface (line ++ rest) = ⟨[], some e⟩ := by
  cases hdecode : Utf8.decode line with
  | ok cs => exact absurd (Utf8.decode_eq_ok_iff.1 hdecode) (hbad cs)
  | error e =>
    refine ⟨e, fun rest hline => ?_⟩
    rw [run, hline.lines_append (hbad []), ofLines, report, hdecode]
    rfl

/-- An input that is no UTF-8 has a first line that is none. -/
theorem exists_bad_line (input : Bytes) (h : ∀ cs, input ≠ Utf8.encode cs) :
    ∃ before line rest, input = Utf8.encode before ++ (line ++ rest) ∧ EndsLine '\n' before ∧
      IsLine line rest ∧ ∀ cs, line ≠ Utf8.encode cs := by
  induction input using separated_induction lineFeed with
  | last body hbody =>
    exact ⟨[], body, [], by rw [Utf8.encode_nil, List.nil_append, List.append_nil], .inl rfl,
      ⟨body, hbody, .inr ⟨rfl, rfl⟩⟩, h⟩
  | next body rest hbody ih =>
    by_cases hgood : ∃ cs, body ++ [lineFeed] = Utf8.encode cs
    · obtain ⟨cs, hcs⟩ := hgood
      have hends : EndsLine '\n' cs := by
        obtain ⟨front, hfront, -⟩ := Utf8.encode_eq_concat_lineFeed_iff.1 hcs.symm
        exact .inr ⟨front, hfront⟩
      have hsplit : body ++ lineFeed :: rest = Utf8.encode cs ++ rest := by
        rw [← hcs, List.append_assoc, List.singleton_append]
      obtain ⟨before, line, rest', hrest, hbefore, hline, hbad⟩ := ih fun ds hds =>
        h (cs ++ ds) (by rw [hsplit, hds, Utf8.encode_append])
      refine ⟨cs ++ before, line, rest', ?_, hends.append hbefore, hline, hbad⟩
      rw [hsplit, hrest, Utf8.encode_append, List.append_assoc]
    · exact ⟨[], body ++ [lineFeed], rest, by simp, .inl rfl, ⟨body, hbody, .inl rfl⟩,
        fun cs hcs => hgood ⟨cs, hcs⟩⟩

/-- Whether some line of an input is no UTF-8. -/
def HasBadLine (input : Bytes) : Prop :=
  ∃ before line rest, input = before ++ (line ++ rest) ∧ EndsLine lineFeed before ∧
    IsLine line rest ∧ ∀ cs, line ≠ Utf8.encode cs

/-- All lines of a text are UTF-8. -/
theorem HasBadLine.ne_encode {input : Bytes} (h : HasBadLine input) (cs : List Char) :
    input ≠ Utf8.encode cs := by
  obtain ⟨before, line, rest, rfl, hbefore, ⟨body, -, hline⟩, hbad⟩ := h
  intro hinput
  obtain ⟨-, ds, hds⟩ := Utf8.exists_encode_of_append hbefore hinput.symm
  rcases hline with rfl | ⟨rfl, rfl⟩
  · obtain ⟨⟨es, hes⟩, -⟩ := Utf8.exists_encode_of_append (.inr ⟨body, rfl⟩) hds.symm
    exact hbad es hes
  · rw [List.append_nil] at hds
    exact hbad ds hds

end Replay

namespace Monitor

open Replay

/-! ### Runs over texts -/

/-- The account of a run over a text: every line that counts has its verdict, and the lines that are
put out stand in the order of the input. -/
structure Accounted (settings : Settings) (cs : List Char) (verdicts : List Verdict) (o : Outcome) :
    Prop where
  failure? : o.failure? = none
  comesTo : List.Forall₂ (ComesTo settings.interface) (considered cs) verdicts
  tally? : o.tally? =
    some ⟨(considered cs).length, verdicts.count .unparsable, verdicts.count .unmapped⟩
  output : settings.output = .json →
    o.output = String.join ((verdicts.filterMap Verdict.line?).map (· ++ "\n"))
  length_eq : settings.output = .json → (considered cs).length = verdicts.count .unparsable +
    verdicts.count .unmapped + verdicts.count .dropped + o.output.toList.count '\n'

/-- The account of two runs that are one. -/
structure Adds (a b both : Outcome) : Prop where
  failure? : both.failure? = none
  output : both.output = a.output ++ b.output
  tally? : ∃ ta tb, a.tally? = some ta ∧ b.tally? = some tb ∧ both.tally? =
    some ⟨ta.lines + tb.lines, ta.unparsable + tb.unparsable, ta.unmapped + tb.unmapped⟩

/-- The account of a run that breaks off behind another. -/
structure BreaksOff (before o : Outcome) : Prop where
  output : o.output = before.output
  exitCode : o.exitCode = 1
  tally? : o.tally? = none
  /-- Only the record of the end of the input is missing. -/
  records : ∃ closing, closing.length ≤ 1 ∧ before.records = o.records ++ closing

variable (loaded : Settings.Loaded) (interface? : Option String)

/-- **A text is replayed to its end.** -/
theorem replay_encode (cs : List Char) :
    let settings := loaded.settings.withInterface interface?
    let o := replay loaded interface? (Utf8.encode cs)
    let reports := (considered cs).map (weigh settings.interface)
    o.failure? = none ∧ o.tally? = some (tally reports) ∧
      o.output = outputText settings.interface settings.output reports := by
  intro settings o reports
  obtain ⟨herror, hreports⟩ := run_encode settings.interface cs
  refine ⟨?_, ?_, ?_⟩
  · show (Replay.run settings.interface (Utf8.encode cs)).error?.map _ = none
    rw [herror]
    rfl
  · show (if (Replay.run settings.interface (Utf8.encode cs)).error?.isSome then none else _) = _
    rw [herror, ← tally_filter, hreports]
    rfl
  · show String.join _ = String.join _
    rw [← flatMap_outputLines_filter, hreports]

theorem exists_accounted (cs : List Char) :
    ∃ verdicts, Accounted (loaded.settings.withInterface interface?) cs verdicts
      (replay loaded interface? (Utf8.encode cs)) := by
  obtain ⟨hfailure, htally, houtput⟩ := replay_encode loaded interface? cs
  obtain ⟨verdicts, hverdicts⟩ :=
    exists_forall₂_comesTo (loaded.settings.withInterface interface?).interface (considered cs)
  have hjson : (loaded.settings.withInterface interface?).output = .json →
      (replay loaded interface? (Utf8.encode cs)).output =
        String.join ((verdicts.filterMap Verdict.line?).map (· ++ "\n")) := by
    intro hsettings
    rw [houtput, hsettings, outputText, flatMap_outputLines_weigh hverdicts]
  refine ⟨verdicts, hfailure, hverdicts, ?_, hjson, fun hsettings => ?_⟩
  · rw [htally, tally_map_weigh hverdicts]
  · rw [hjson hsettings, count_newline_join (newline_not_mem_lines hverdicts), hverdicts.length_eq,
      length_eq_counts]

/-- The runs over two texts are one if the first text ends its last line. -/
theorem adds_replay {a : List Char} (h : EndsLine '\n' a) (b : List Char) :
    Adds (replay loaded interface? (Utf8.encode a)) (replay loaded interface? (Utf8.encode b))
      (replay loaded interface? (Utf8.encode a ++ Utf8.encode b)) := by
  obtain ⟨ha, -⟩ := run_encode (loaded.settings.withInterface interface?).interface a
  obtain ⟨hb, -⟩ := run_encode (loaded.settings.withInterface interface?).interface b
  have hrun := run_append (Utf8.endsLine_encode h) ha (Utf8.encode b)
  constructor
  · simp only [replay, hrun, hb, Option.map_none]
  · simp only [replay, hrun, outputText, List.flatMap_append, List.map_append, String.join_append]
  · simp only [replay, hrun, ha, hb, tally, List.countP_append]
    exact ⟨_, _, rfl, rfl, rfl⟩

theorem allRecords_some (settings : Settings) (fileError? : Option Settings.FileError)
    (reports : List Report) (tally : Tally) :
    allRecords settings fileError? reports (some tally) =
      allRecords settings fileError? reports none ++ [⟨programTarget, closingRecord tally⟩] := by
  rw [allRecords, allRecords, Option.toList_none, List.map_nil, List.append_nil]
  rfl

/-- Behind a text that ends its last line, a line that is no UTF-8 breaks off the run. -/
theorem breaksOff_replay {before : List Char} {line rest : Bytes} (hbefore : EndsLine '\n' before)
    (hline : IsLine line rest) (hbad : ∀ cs, line ≠ Utf8.encode cs) :
    BreaksOff (replay loaded interface? (Utf8.encode before))
        (replay loaded interface? (Utf8.encode before ++ (line ++ rest))) ∧
      replay loaded interface? (Utf8.encode before ++ (line ++ rest)) =
        replay loaded interface? (Utf8.encode before ++ (line ++ [])) := by
  obtain ⟨hvalid, -⟩ := run_encode (loaded.settings.withInterface interface?).interface before
  obtain ⟨e, he⟩ := exists_run_eq (loaded.settings.withInterface interface?).interface hbad
  have hrun (rest : Bytes) (hline : IsLine line rest) :
      Replay.run (loaded.settings.withInterface interface?).interface
          (Utf8.encode before ++ (line ++ rest)) =
        ⟨(Replay.run (loaded.settings.withInterface interface?).interface
          (Utf8.encode before)).reports, some e⟩ := by
    rw [run_append (Utf8.endsLine_encode hbefore) hvalid, he rest hline, List.append_nil]
  refine ⟨⟨?_, ?_, ?_, ?_⟩, ?_⟩
  · simp only [replay, hrun rest hline]
  · simp only [Outcome.exitCode, replay, hrun rest hline, Option.map_some, Option.isSome_some,
      if_true]
  · simp only [replay, hrun rest hline, Option.isSome_some, if_true]
  · simp only [replay, hrun rest hline, hvalid, Option.isSome_some, Option.isSome_none, if_true,
      Bool.false_eq_true, if_false, allRecords_some, List.filter_append, List.map_append]
    refine ⟨_, ?_, rfl⟩
    rw [List.length_map]
    exact List.length_filter_le _ _
  · simp only [replay, hrun rest hline, hrun [] hline.of_rest]

/-- **The accounts of a replay.** -/
theorem replay_accounts (loaded : Settings.Loaded) (interface? : Option String) :
    -- each line that counts comes to one thing, and all of them are in the account
    (∀ text, ∃! v, ComesTo (loaded.settings.withInterface interface?).interface text v) ∧
    (∀ cs, ∃ verdicts, Accounted (loaded.settings.withInterface interface?) cs verdicts
      (replay loaded interface? (Utf8.encode cs))) ∧
    -- inputs are replayed one after the other
    (∀ a b, EndsLine '\n' a →
      Adds (replay loaded interface? (Utf8.encode a)) (replay loaded interface? (Utf8.encode b))
        (replay loaded interface? (Utf8.encode a ++ Utf8.encode b))) ∧
    -- the first line that is no UTF-8 ends the run behind the lines before it
    (∀ before line rest, EndsLine '\n' before → IsLine line rest → (∀ cs, line ≠ Utf8.encode cs) →
      BreaksOff (replay loaded interface? (Utf8.encode before))
          (replay loaded interface? (Utf8.encode before ++ (line ++ rest))) ∧
        replay loaded interface? (Utf8.encode before ++ (line ++ rest)) =
          replay loaded interface? (Utf8.encode before ++ (line ++ []))) ∧
    ∀ input, HasBadLine input → ∃ before line rest,
      input = Utf8.encode before ++ (line ++ rest) ∧ EndsLine '\n' before ∧ IsLine line rest ∧
        ∀ cs, line ≠ Utf8.encode cs :=
  ⟨existsUnique_comesTo _, exists_accounted loaded interface?,
    fun _ b h => adds_replay loaded interface? h b,
    fun _ _ _ hbefore hline hbad => breaksOff_replay loaded interface? hbefore hline hbad,
    fun input h => exists_bad_line input h.ne_encode⟩

end Monitor

end WifiDirect
