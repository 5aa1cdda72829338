import WifiDirect.Foreign
import WifiDirect.Proofs.Decoding
import WifiDirect.Proofs.Frames
import Mathlib.Data.List.Forall2

/-!
# Foreign callers see what sinks see

`Foreign.calls_obey`: at any point of a session, what a call comes to agrees with the delivery of
the notification in its frame. The frame of the event is written if it fits, and a sink is given
the event; one code says that the notification is dropped, another that its status is in no table;
and a call that writes no frame leaves the buffer as it was.

A call and a delivery end in one of four ways (`Ends`), which the codes keep apart.
-/

namespace WifiDirect.Foreign

/-! ### Codes -/

/-- A size that four bytes can hold with a sign is its own code. -/
theorem Status.code_written {size : Nat} (h : size < 2 ^ 31) : (written size).code = size :=
  Int32.toInt_ofNat_of_lt h

theorem length_frame {event : Event} {frame : Bytes}
    (h : Frame.encode Event.layout event = .ok frame) :
    0 < frame.length ∧ frame.length < 2 ^ 31 := by
  have hlength := Frame.length_of_encode h
  have hle : (Event.layout.encode event).length ≤ 16 * 1024 * 1024 := (Frame.encode_eq_ok_iff.1 h).1
  have hprefix : Frame.prefixLength = 4 := rfl
  omega

/-! ### Writing -/

theorem write_of_le {event : Event} {frame buffer : Bytes}
    (h : Frame.encode Event.layout event = .ok frame) (hle : frame.length ≤ buffer.length) :
    write event buffer = (.written frame.length, frame ++ buffer.drop frame.length) := by
  rw [write, h]
  exact if_pos hle

theorem write_of_lt {event : Event} {buffer : Bytes}
    (h : ∀ frame, Frame.encode Event.layout event = .ok frame → buffer.length < frame.length) :
    write event buffer = (.badArguments, buffer) := by
  rw [write]
  split
  · rfl
  · rename_i frame hframe
    have := h frame hframe
    exact if_neg (by omega)

/-! ### One notification -/

/-- How a call ends, with which buffer, and how the delivery of its notification does. -/
inductive Ends (c : Notification) (buffer : Bytes) : Status → Bytes → Fate → Prop
  /-- The event is handed over, and its frame fits. -/
  | written (event : Event) (frame : Bytes) (hevent : c.event = .ok event)
      (hframe : Frame.encode Event.layout event = .ok frame) (hle : frame.length ≤ buffer.length) :
      Ends c buffer (.written frame.length) (frame ++ buffer.drop frame.length)
        (.handedOver (.ofEvent event))
  /-- The event is handed over, and has no frame that fits. -/
  | unwritten (event : Event) (hevent : c.event = .ok event)
      (hlt : ∀ frame, Frame.encode Event.layout event = .ok frame → buffer.length < frame.length) :
      Ends c buffer .badArguments buffer (.handedOver (.ofEvent event))
  /-- The notification is malformed. -/
  | dropped (callback : String) (reason : Malformed)
      (hevent : c.event = .error (.dropped callback reason)) :
      Ends c buffer .dropped buffer (.dropped callback reason)
  /-- The status of the notification is in no table. -/
  | unmapped (table : StatusTable) (value : Int32)
      (hevent : c.event = .error (.unmapped table value)) :
      Ends c buffer .unmapped buffer (.unmapped table value)

/-- A call with the frame of a notification and the delivery of the notification end together. -/
theorem ends_of_read (interface : String) {c : Notification} {input : Bytes} {size : Nat}
    (hread : Frame.read Notification.layout input = .ok ⟨c, size⟩) (buffer : Bytes) :
    ∃ after, (decode (some ⟨interface⟩) (some input) (some buffer)).buffer? = some after ∧
      Ends c buffer (decode (some ⟨interface⟩) (some input) (some buffer)).status after
        (Delivery.ofNotification interface c).fate := by
  rw [decode, decodeFrame, hread, Delivery.ofNotification]
  dsimp only
  cases hdecode : c.decode with
  | error rejection =>
    have hevent := Notification.event_eq_error_iff.2 hdecode
    cases rejection with
    | dropped callback reason => exact ⟨buffer, rfl, .dropped callback reason hevent⟩
    | unmapped table value => exact ⟨buffer, rfl, .unmapped table value hevent⟩
  | ok decoded =>
    have hevent := Notification.event_eq_ok_iff.2 ⟨decoded, hdecode, rfl⟩
    dsimp only
    by_cases hfits : ∃ frame, Frame.encode Event.layout decoded.event = .ok frame ∧
        frame.length ≤ buffer.length
    · obtain ⟨frame, hframe, hle⟩ := hfits
      rw [write_of_le hframe hle]
      exact ⟨_, rfl, .written decoded.event frame hevent hframe hle⟩
    · have hlt : ∀ frame, Frame.encode Event.layout decoded.event = .ok frame →
          buffer.length < frame.length := fun frame hframe =>
        Nat.lt_of_not_le fun hle => hfits ⟨frame, hframe, hle⟩
      rw [write_of_lt hlt]
      exact ⟨_, rfl, .unwritten decoded.event hevent hlt⟩

theorem ends (interface : String) {c : Notification} {frame : Bytes}
    (hframe : Frame.encode Notification.layout c = .ok frame) (tail buffer : Bytes) :
    ∃ after, (decode (some ⟨interface⟩) (some (frame ++ tail)) (some buffer)).buffer? = some after ∧
      Ends c buffer (decode (some ⟨interface⟩) (some (frame ++ tail)) (some buffer)).status after
        (Delivery.ofNotification interface c).fate :=
  ends_of_read interface (Frame.read_of_encode (R := Eq) Notification.coherent_layout hframe tail)
    buffer

namespace Ends

variable {c : Notification} {buffer after : Bytes} {status : Status} {fate : Fate}

/-- An event is handed over, and its frame is written if there is one that fits. -/
theorem of_event (h : Ends c buffer status after fate) {event : Event}
    (hevent : c.event = .ok event) :
    fate = .handedOver (.ofEvent event) ∧
      ((∃ frame, Frame.encode Event.layout event = .ok frame ∧ frame.length ≤ buffer.length ∧
          status = .written frame.length ∧ after = frame ++ buffer.drop frame.length) ∨
        ((∀ frame, Frame.encode Event.layout event = .ok frame → buffer.length < frame.length) ∧
          status = .badArguments ∧ after = buffer)) := by
  cases h with
  | written event' frame hevent' hframe hle =>
    rw [hevent, Except.ok.injEq] at hevent'
    subst hevent'
    exact ⟨rfl, .inl ⟨frame, hframe, hle, rfl, rfl⟩⟩
  | unwritten event' hevent' hlt =>
    rw [hevent, Except.ok.injEq] at hevent'
    subst hevent'
    exact ⟨rfl, .inr ⟨hlt, rfl, rfl⟩⟩
  | dropped callback reason hevent' =>
    rw [hevent] at hevent'
    cases hevent'
  | unmapped table value hevent' =>
    rw [hevent] at hevent'
    cases hevent'

theorem code_eq_zero_iff (h : Ends c buffer status after fate) :
    status.code = 0 ↔ fate.error? = none ∧ fate.call? = none := by
  cases h with
  | written event frame hevent hframe hle =>
    obtain ⟨hpos, hlt⟩ := length_frame hframe
    rw [Status.code_written hlt]
    exact iff_of_false (by omega) nofun
  | unwritten => exact iff_of_false (by decide) nofun
  | dropped => exact iff_of_true rfl ⟨rfl, rfl⟩
  | unmapped => exact iff_of_false (by decide) nofun

theorem code_eq_neg_two_iff (h : Ends c buffer status after fate) :
    status.code = -2 ↔ ∃ table value, fate.error? = some (.unmapped table value) := by
  cases h with
  | written event frame hevent hframe hle =>
    obtain ⟨hpos, hlt⟩ := length_frame hframe
    rw [Status.code_written hlt]
    exact iff_of_false (by omega) nofun
  | unwritten => exact iff_of_false (by decide) nofun
  | dropped => exact iff_of_false (by decide) nofun
  | unmapped table value => exact iff_of_true rfl ⟨table, value, rfl⟩

theorem code_eq_neg_one_iff (h : Ends c buffer status after fate) :
    status.code = -1 ↔ ∃ event, c.event = .ok event ∧
      ∀ frame, Frame.encode Event.layout event = .ok frame → buffer.length < frame.length := by
  cases h with
  | written event frame hevent hframe hle =>
    obtain ⟨hpos, hlt⟩ := length_frame hframe
    rw [Status.code_written hlt]
    refine iff_of_false (by omega) fun ⟨event', hevent', hlonger⟩ => ?_
    rw [hevent, Except.ok.injEq] at hevent'
    subst hevent'
    have hlonger := hlonger frame hframe
    omega
  | unwritten event hevent hlt => exact iff_of_true rfl ⟨event, hevent, hlt⟩
  | dropped callback reason hevent =>
    refine iff_of_false (by decide) fun ⟨event', hevent', _⟩ => ?_
    rw [hevent] at hevent'
    cases hevent'
  | unmapped table value hevent =>
    refine iff_of_false (by decide) fun ⟨event', hevent', _⟩ => ?_
    rw [hevent] at hevent'
    cases hevent'

/-- Only a positive code comes with another buffer. -/
theorem after_eq (h : Ends c buffer status after fate) (hcode : status.code ≤ 0) :
    after = buffer := by
  cases h with
  | written event frame hevent hframe hle =>
    obtain ⟨hpos, hlt⟩ := length_frame hframe
    rw [Status.code_written hlt] at hcode
    omega
  | unwritten => rfl
  | dropped => rfl
  | unmapped => rfl

end Ends

/-- What a caller sees of a notification agrees with what a sink sees of it. -/
structure Agrees (interface : String) (c : Notification) (buffer : Bytes) (call : Call) : Prop where
  /-- The frame of the event is written if it fits, and a sink is given the event. -/
  written : ∀ event frame, c.event = .ok event → Frame.encode Event.layout event = .ok frame →
    frame.length ≤ buffer.length →
      call.status.code = frame.length ∧ 0 < call.status.code ∧ call.status.code < 2 ^ 31 ∧
      call.buffer? = some (frame ++ buffer.drop frame.length) ∧
      Frame.read Event.layout frame = .ok ⟨event, frame.length⟩ ∧
      (Delivery.ofNotification interface c).fate = .handedOver (.ofEvent event)
  /-- Nothing is written if the event has no frame or one that does not fit. -/
  unwritten : ∀ event, c.event = .ok event →
    (∃ problem, Frame.encode Event.layout event = .error problem) ∨
      (∃ frame, Frame.encode Event.layout event = .ok frame ∧ buffer.length < frame.length) →
    call.status.code = -1 ∧ call.buffer? = some buffer
  /-- The code is zero exactly if there is no error and no call to a sink. -/
  code_eq_zero_iff : call.status.code = 0 ↔
    (Delivery.ofNotification interface c).fate.error? = none ∧
      (Delivery.ofNotification interface c).fate.call? = none
  /-- The code is `-2` exactly if the error is a status that is in no table. -/
  code_eq_neg_two_iff : call.status.code = -2 ↔
    ∃ table value,
      (Delivery.ofNotification interface c).fate.error? = some (.unmapped table value)
  /-- Unless a frame is written, the buffer is as it was. -/
  untouched : call.status.code ≤ 0 → call.buffer? = some buffer

theorem Ends.agrees {interface : String} {c : Notification} {buffer after : Bytes} {call : Call}
    (hbuffer : call.buffer? = some after)
    (h : Ends c buffer call.status after (Delivery.ofNotification interface c).fate) :
    Agrees interface c buffer call where
  written event frame hevent hframe hle := by
    obtain ⟨hpos, hlt⟩ := length_frame hframe
    have hread := Frame.read_of_encode Event.coherent_layout hframe []
    rw [List.append_nil] at hread
    obtain ⟨hfate, ⟨frame', hframe', -, hstatus, hafter⟩ | ⟨hlonger, -, -⟩⟩ := h.of_event hevent
    · rw [hframe, Except.ok.injEq] at hframe'
      subst hframe'
      rw [hstatus, Status.code_written hlt, hbuffer, hafter]
      exact ⟨rfl, by omega, by omega, rfl, hread, hfate⟩
    · exact absurd (hlonger frame hframe) (by omega)
  unwritten event hevent hnone := by
    obtain ⟨-, ⟨frame, hframe, hle, -, -⟩ | ⟨-, hstatus, hafter⟩⟩ := h.of_event hevent
    · rcases hnone with ⟨problem, hproblem⟩ | ⟨frame', hframe', hlt⟩
      · rw [hframe] at hproblem
        cases hproblem
      · rw [hframe, Except.ok.injEq] at hframe'
        subst hframe'
        omega
    · rw [hstatus, hbuffer, hafter]
      exact ⟨rfl, rfl⟩
  code_eq_zero_iff := h.code_eq_zero_iff
  code_eq_neg_two_iff := h.code_eq_neg_two_iff
  untouched hcode := by rw [hbuffer, h.after_eq hcode]

/-! ### A session -/

/-- The arguments of a call, after its handle. -/
structure Arguments where
  input? : Option Bytes
  buffer? : Option Bytes
  deriving DecidableEq, Repr

/-- The calls of a session with one handle, which is the same for all of them. -/
def calls (handle? : Option Handle) (session : List Arguments) : List Call :=
  session.map fun arguments => decode handle? arguments.input? arguments.buffer?

/-- A call is refused: its buffer, if it has one, is as it was. -/
def Refused (arguments : Arguments) (call : Call) : Prop :=
  call.status.code = -1 ∧ call.buffer? = arguments.buffer?

/-- What a call of a decoder for an interface comes to. -/
structure Obeys (interface : String) (arguments : Arguments) (call : Call) : Prop where
  /-- The frame of a notification, whatever follows it, is decoded as for a sink. -/
  agrees : ∀ c frame tail buffer, Frame.encode Notification.layout c = .ok frame →
    arguments = ⟨some (frame ++ tail), some buffer⟩ → Agrees interface c buffer call
  /-- What is no frame of a notification is refused. -/
  unreadable : ∀ input problem, Frame.read Notification.layout input = .error problem →
    arguments.input? = some input → Refused arguments call
  /-- So is a call with an argument missing. -/
  missing : arguments.input? = none ∨ arguments.buffer? = none → Refused arguments call

theorem refused_of_unreadable {handle? : Option Handle} {arguments : Arguments} {input : Bytes}
    {problem : Frame.Problem} (h : Frame.read Notification.layout input = .error problem)
    (hinput : arguments.input? = some input) :
    Refused arguments (decode handle? arguments.input? arguments.buffer?) := by
  rw [Refused, hinput]
  cases handle? with
  | none => exact ⟨rfl, rfl⟩
  | some handle =>
    cases arguments.buffer? with
    | none => exact ⟨rfl, rfl⟩
    | some buffer =>
      rw [decode, decodeFrame, h]
      exact ⟨rfl, rfl⟩

theorem refused_of_missing {handle? : Option Handle} {arguments : Arguments}
    (h : handle? = none ∨ arguments.input? = none ∨ arguments.buffer? = none) :
    Refused arguments (decode handle? arguments.input? arguments.buffer?) := by
  unfold Refused decode
  split
  · simp_all
  · exact ⟨rfl, rfl⟩

theorem obeys (interface : String) (arguments : Arguments) :
    Obeys interface arguments (decode (some ⟨interface⟩) arguments.input? arguments.buffer?) where
  agrees c frame tail buffer hframe harguments := by
    subst harguments
    obtain ⟨after, hbuffer, hends⟩ := ends interface hframe tail buffer
    exact hends.agrees hbuffer
  unreadable input problem hread hinput := refused_of_unreadable hread hinput
  missing h := refused_of_missing (.inr h)

/-- **Callers see what sinks see**, in every call of every session, and without a handle every call
is refused. -/
theorem calls_obey (interface : String) (session : List Arguments) :
    List.Forall₂ (Obeys interface) session
        (calls (create (some (Utf8.bytes interface))) session) ∧
      List.Forall₂ Refused session (calls none session) := by
  have hcreate : create (some (Utf8.bytes interface)) = some ⟨interface⟩ := by
    rw [create]
    show ((Utf8.text (Utf8.bytes interface)).toOption >>= fun interface => _) = _
    rw [Utf8.text_bytes]
    rfl
  rw [hcreate, calls, calls]
  constructor
  · rw [List.forall₂_map_right_iff]
    exact List.forall₂_same.2 fun arguments _ => obeys interface arguments
  · rw [List.forall₂_map_right_iff]
    exact List.forall₂_same.2 fun arguments _ => refused_of_missing (.inl rfl)

/-- The frame of the event is written, and the code is its length. -/
theorem calls_obey_findStopped :
    (decode (create (some (Utf8.bytes "p2p0"))) (some [4, 0, 0, 0, 4, 0, 0, 0, 1])
      (some (List.replicate 10 7))).status.code = 8 := by
  have hsession := (calls_obey "p2p0"
    [⟨some ([4, 0, 0, 0, 4, 0, 0, 0] ++ [1]), some (List.replicate 10 7)⟩]).1
  have hcall := (List.forall₂_cons.1 hsession).1
  have hagrees := hcall.agrees .findStopped _ _ _ rfl rfl
  exact (hagrees.written .findStopped [4, 0, 0, 0, 2, 0, 0, 0] rfl rfl (by decide)).1

end WifiDirect.Foreign
