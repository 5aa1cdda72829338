import WifiDirect.Proofs.JsonForms
import WifiDirect.Proofs.JsonText
import WifiDirect.Proofs.ReplayAccounts

/-!
# Recordings

`Monitor.replay_recording`: notifications that stand in a text one a line, among blank lines and
comments, are replayed as these notifications, and what is put out are the lines of delivering them.
-/

namespace WifiDirect

/-! ### Notifications as text -/

/-- A notification as text. -/
def Notification.text (n : Notification) : List Char :=
  (layout.toJson n).render

namespace Notification

/-- **A notification is read back from its text.** -/
theorem notification?_text (n : Notification) : Replay.notification? n.text = some n := by
  rw [Replay.notification?, text, Json.parse?_render]
  exact readsBack_layout (f := id) n

theorem newline_not_mem_text (n : Notification) : '\n' ∉ n.text := by
  intro h
  exact absurd (Json.le_of_mem_render _ h) (by decide)

theorem head?_text_ne (n : Notification) : n.text.head? ≠ some '#' := by
  obtain ⟨c, cs, hcs, hc⟩ := Json.exists_render_eq_cons (layout.toJson n)
  rw [text, hcs, List.head?_cons]
  intro h
  exact hc.2.2 (Option.some.inj h)

theorem text_ne_nil (n : Notification) : n.text ≠ [] := by
  obtain ⟨c, cs, hcs, -⟩ := Json.exists_render_eq_cons (layout.toJson n)
  rw [text, hcs]
  exact List.cons_ne_nil c cs

theorem trim_text (n : Notification) : Text.trim n.text = n.text := by
  obtain ⟨c, cs, hcs, hc⟩ := Json.exists_render_eq_cons (layout.toJson n)
  obtain ⟨ds, d, hds, hd⟩ := Json.exists_render_eq_concat (layout.toJson n)
  exact Text.trim_eq_self hcs hc.2.1 hds hd.2.1

end Notification

namespace Replay

/-! ### Recordings -/

/-- Blanks that end no line. -/
def IsSpace (cs : List Char) : Prop := ∀ c ∈ cs, Text.isBlank c ∧ c ≠ '\n'

/-- A line of a recording: blank, a comment, or a notification with blanks around it. -/
inductive LineOf : Option Notification → List Char → Prop
  | blank {cs : List Char} (h : IsSpace cs) : LineOf none cs
  | comment {before cs : List Char} (hbefore : IsSpace before) (h : '\n' ∉ cs) :
      LineOf none (before ++ '#' :: cs)
  | notification {before after : List Char} (hbefore : IsSpace before) (hafter : IsSpace after)
      (n : Notification) : LineOf (some n) (before ++ (n.text ++ after))

/-- **A recording of notifications.** The last line may lack its end. -/
inductive Recording : List Notification → List Char → Prop
  | last {n? : Option Notification} {cs : List Char} (h : LineOf n? cs) : Recording n?.toList cs
  | line {n? : Option Notification} {ns : List Notification} {cs rest : List Char}
      (h : LineOf n? cs) (hrest : Recording ns rest) :
      Recording (n?.toList ++ ns) (cs ++ '\n' :: rest)

theorem isSpace_nil : IsSpace [] := fun _ h => nomatch h

theorem IsSpace.newline_not_mem {cs : List Char} (h : IsSpace cs) : '\n' ∉ cs :=
  fun hmem => (h '\n' hmem).2 rfl

theorem IsSpace.isBlank {cs : List Char} (h : IsSpace cs) : ∀ c ∈ cs, Text.isBlank c :=
  fun c hc => (h c hc).1

namespace LineOf

variable {n? : Option Notification} {cs : List Char}

theorem newline_not_mem (h : LineOf n? cs) : '\n' ∉ cs := by
  cases h with
  | blank h => exact h.newline_not_mem
  | comment hbefore h =>
    rw [List.mem_append, List.mem_cons, not_or, not_or]
    exact ⟨hbefore.newline_not_mem, by decide, h⟩
  | notification hbefore hafter n =>
    rw [List.mem_append, List.mem_append, not_or, not_or]
    exact ⟨hbefore.newline_not_mem, n.newline_not_mem_text, hafter.newline_not_mem⟩

/-- **A line counts just for its notification**, and then says its text. -/
theorem considered_eq (h : LineOf n? cs) : considered cs = n?.toList.map Notification.text := by
  rw [considered_of_not_mem h.newline_not_mem]
  cases h with
  | blank h =>
    have htrim := Text.trim_append h.isBlank isSpace_nil.isBlank []
    rw [List.append_nil, List.append_nil] at htrim
    rw [htrim]
    rfl
  | @comment before cs hbefore h =>
    have htrim := Text.trim_append hbefore.isBlank isSpace_nil.isBlank ('#' :: cs)
    have hhash : (Text.trim ('#' :: cs)).head? = some '#' := Text.head?_trim_cons (by decide) cs
    rw [List.append_nil] at htrim
    rw [htrim, List.filter_cons_of_neg (by simp [hhash])]
    rfl
  | notification hbefore hafter n =>
    rw [Text.trim_append hbefore.isBlank hafter.isBlank, n.trim_text,
      List.filter_cons_of_pos (by simp [n.text_ne_nil, n.head?_text_ne])]
    rfl

end LineOf

theorem Recording.considered_eq {ns : List Notification} {cs : List Char} (h : Recording ns cs) :
    considered cs = ns.map Notification.text := by
  induction h with
  | last h => exact h.considered_eq
  | line h _ ih =>
    rw [considered_append_cons h.newline_not_mem, h.considered_eq, ih, List.map_append]

/-- Every list of notifications has a recording. -/
theorem recording_flatMap (ns : List Notification) :
    Recording ns (ns.flatMap fun n => n.text ++ ['\n']) := by
  induction ns with
  | nil => exact .last (.blank isSpace_nil)
  | cons n ns ih =>
    have hline := LineOf.notification isSpace_nil isSpace_nil n
    rw [List.nil_append, List.append_nil] at hline
    rw [List.flatMap_cons, List.append_assoc]
    exact .line hline ih

/-! ### Replaying a recording -/

theorem weigh_text (interface : String) (n : Notification) :
    weigh interface n.text = .delivered (.ofNotification interface n) := by
  rw [weigh, n.notification?_text]

/-- Deliveries are all parsable, and those of which the status is in no table are unmapped. -/
theorem tally_map_delivered (interface : String) (ns : List Notification) :
    tally (ns.map fun n => .delivered (.ofNotification interface n)) =
      ⟨ns.length, 0, ns.countP (·.event matches .error (.unmapped ..))⟩ := by
  induction ns with
  | nil => rfl
  | cons n ns ih =>
    rw [tally, Tally.mk.injEq] at ih
    rw [tally, List.map_cons, List.countP_cons, List.countP_cons, List.countP_cons, ih.1, ih.2.1,
      ih.2.2, Report.isUnmapped_delivered, List.countP_cons]
    rfl

/-- A sink that writes lines has the lines of all deliveries. -/
theorem lines_deliverTo (interface : String) (ns : List Notification) (buffer : LineBuffer) :
    (Delivery.deliverTo LineBuffer.receive interface ns buffer).lines = buffer.lines ++
      ns.flatMap fun n => (Delivery.ofNotification interface n).lines interface := by
  induction ns generalizing buffer with
  | nil => exact (List.append_nil _).symm
  | cons n ns ih =>
    have hlines := Delivery.lines_toBuffer interface (.ofNotification interface n) buffer
    rw [List.flatMap_cons, ← List.append_assoc, ← hlines]
    exact ih _

end Replay

namespace Monitor

open Replay

/-- **A recording is replayed as its notifications**: each line that counts is read as one of them,
what is put out are the lines of delivering them in order, and all of them are in the account. No
text of a notification is more than a line or looks like a comment. -/
theorem replay_recording (loaded : Settings.Loaded) (interface? : Option String)
    {ns : List Notification} {cs : List Char} (hjson : loaded.settings.output = .json)
    (h : Recording ns cs) :
    let interface := (loaded.settings.withInterface interface?).interface
    let o := replay loaded interface? (Utf8.encode cs)
    (considered cs).map notification? = ns.map some ∧
    o.failure? = none ∧
    o.output = String.join
      ((Delivery.deliverTo LineBuffer.receive interface ns .empty).lines.map (· ++ "\n")) ∧
    o.tally? = some ⟨ns.length, 0, ns.countP (·.event matches .error (.unmapped ..))⟩ ∧
    ∀ n : Notification, '\n' ∉ n.text ∧ n.text.head? ≠ some '#' := by
  intro interface o
  obtain ⟨hfailure, htally, houtput⟩ := replay_encode loaded interface? cs
  have hreports : (considered cs).map (weigh interface) =
      ns.map fun n => .delivered (.ofNotification interface n) := by
    rw [h.considered_eq, List.map_map]
    exact List.map_congr_left fun n _ => weigh_text interface n
  have hsettings : (loaded.settings.withInterface interface?).output = .json := hjson
  refine ⟨?_, hfailure, ?_, ?_, fun n => ⟨n.newline_not_mem_text, n.head?_text_ne⟩⟩
  · rw [h.considered_eq, List.map_map]
    exact List.map_congr_left fun n _ => n.notification?_text
  · rw [houtput, hsettings, hreports, lines_deliverTo, outputText, List.flatMap_map]
    rfl
  · rw [htally, hreports, tally_map_delivered]

/-- A comment, a notification between blanks, a blank line, and a notification of which the status is
in no table. -/
theorem replay_recording_two :
    let input := "# found\n \"FindStopped\" \n\n" ++
      "\x7b\"GoNegotiationCompleted\":\x7b\"status\":99\x7d\x7d"
    let o := replay ⟨{ Settings.default with output := .json }, none⟩ none (Utf8.encode input.toList)
    Recording [.findStopped, .negotiationCompleted 99] input.toList ∧
      o.output = "\x7b\"data\":null,\"event\":\"find-stopped\",\"iface\":\"p2p0\"\x7d\n" ∧
      o.tally? = some ⟨2, 0, 1⟩ := by
  intro input o
  have hspace : IsSpace [' '] := by
    intro c hc
    cases List.mem_singleton.1 hc
    decide
  have hcomment : '\n' ∉ [' ', 'f', 'o', 'u', 'n', 'd'] := by decide
  have hrecording : Recording [.findStopped, .negotiationCompleted 99] input.toList := by
    have hlines := Recording.line (.comment isSpace_nil hcomment) <|
      .line (.notification hspace hspace .findStopped) <| .line (.blank isSpace_nil) <|
      .last (.notification isSpace_nil isSpace_nil (.negotiationCompleted 99))
    refine Eq.mp (congrArg _ ?_) hlines
    decide +kernel
  obtain ⟨-, -, houtput, htally, -⟩ :=
    replay_recording ⟨{ Settings.default with output := .json }, none⟩ none rfl hrecording
  refine ⟨hrecording, ?_, htally⟩
  have hline : SinkCall.findStopped.line "p2p0" =
      "\x7b\"data\":null,\"event\":\"find-stopped\",\"iface\":\"p2p0\"\x7d" := by
    rw [SinkCall.line, SinkCall.sortKeys_toJson]
    decide +kernel
  have hlines : (Delivery.deliverTo LineBuffer.receive "p2p0"
      [.findStopped, .negotiationCompleted 99] .empty).lines =
      [SinkCall.findStopped.line "p2p0"] := rfl
  refine houtput.trans ?_
  show String.join ((Delivery.deliverTo LineBuffer.receive "p2p0"
    [.findStopped, .negotiationCompleted 99] .empty).lines.map _) = _
  rw [hlines, hline]
  decide +kernel

end Monitor

end WifiDirect
