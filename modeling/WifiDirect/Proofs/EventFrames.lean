import WifiDirect.Proofs.EventSizes
import WifiDirect.Proofs.ForeignDelivery

/-!
# Which events have a frame

`Foreign.deliverable_of_read`: the event of a notification that a frame carries has a frame exactly
if it is not longer than frames may be, which it is not where the notification takes at most three
parts in twenty-nine of what frames may (`Foreign.safePayload`). A call with a buffer for any frame
ends with the code for bad arguments just for an event without a frame.

A notification of more bytes may have an event without a frame: `Foreign.tooLarge_of_announcements`
is one, made of announcements that grow as much as anything that is decoded.
-/

namespace WifiDirect

variable {α : Type}

namespace Frame

theorem exists_encode_iff {l : Layout α} {a : α} :
    (∃ frame, encode l a = .ok frame) ↔ (l.encode a).length ≤ maxPayload :=
  ⟨fun ⟨_, hframe⟩ => (encode_eq_ok_iff.1 hframe).1, fun hle => ⟨_, encode_of_le hle⟩⟩

/-- What is read from a frame is not longer than the payload of the frame. -/
theorem length_encode_le_of_read {l : Layout α} (hl : l.Coherent NoLonger) {bs : Bytes} {a : α}
    {size : Nat} (h : read l bs = .ok ⟨a, size⟩) : (l.encode a).length ≤ size - prefixLength := by
  obtain ⟨frame, hframe, hle, -⟩ := neverGrows hl bs a size h
  have hlength := length_of_encode hframe
  omega

end Frame

/-- **An event takes at most twenty-nine bytes for three bytes of its notification.** -/
theorem Notification.length_encode_event_le {c : Notification} {e : Event} (h : c.event = .ok e) :
    3 * (Event.layout.encode e).length ≤ 29 * (layout.encode c).length := by
  obtain ⟨decoded, hdecode, rfl⟩ := event_eq_ok_iff.1 h
  exact c.yields_size_decode decoded hdecode

namespace Foreign

/-- A call with room for any frame ends with the code for bad arguments exactly if the event is longer
than frames may be. -/
theorem code_eq_neg_one_iff_of_read {input : Bytes} {c : Notification} {size : Nat}
    (hread : Frame.read Notification.layout input = .ok ⟨c, size⟩) (handle : Handle) {buffer : Bytes}
    (hbuffer : Frame.prefixLength + Frame.maxPayload ≤ buffer.length) :
    (decode (some handle) (some input) (some buffer)).status.code = -1 ↔
      ∃ event, c.event = .ok event ∧ Frame.maxPayload < (Event.layout.encode event).length := by
  obtain ⟨after, -, hends⟩ := ends_of_read handle.interface hread buffer
  refine hends.code_eq_neg_one_iff.trans (exists_congr fun event => and_congr_right fun _ => ?_)
  constructor
  · intro hlonger
    by_contra hle
    -- a frame of the event would fit
    obtain ⟨frame, hframe⟩ := Frame.exists_encode_iff.2 (Nat.le_of_not_lt hle)
    have hlength := Frame.length_of_encode hframe
    have hlt := hlonger frame hframe
    omega
  · intro hlt frame hframe
    exact absurd (Frame.exists_encode_iff.1 ⟨frame, hframe⟩) (by omega)

/-- The most bytes that the payload of a notification may have for its event to have a frame in any
case. -/
def safePayload : Nat := 3 * Frame.maxPayload / 29

example : safePayload = 1735574 := rfl

/-! ### Announcements without names -/

/-- A device that answers with `n` announcements, each of version zero and without a name. -/
def announcements (n : Nat) : Notification :=
  .serviceResponse (some [2, 0, 0, 0, 0, 1]) 0 (some (List.replicate n [4, 0, 2, 0, 0, 0]).flatten)

end Foreign

namespace Service

/-- The record of an announcement of version zero without a name. -/
def blankRecord : Record := ⟨2, 0, 0, [0], by decide⟩

/-- The response of a device that announces nothing: its one name is empty. -/
def blankResponse (device : Address) : Response :=
  ⟨2, 0, 0, device, [0], .announcement ⟨0, [""]⟩⟩

theorem items_scan_replicate (device : Address) (n : Nat) :
    (Response.scan device (List.replicate n [4, 0, 2, 0, 0, 0]).flatten).items =
      List.replicate n (blankResponse device) := by
  have hbytes : (List.replicate n [4, 0, 2, 0, 0, 0]).flatten =
      (List.replicate n blankRecord.element).flatMap Element.bytes ++ [] := by
    rw [List.append_nil, List.flatMap_def, List.map_replicate]
    rfl
  have hcomplete : ∀ e ∈ List.replicate n blankRecord.element, family.Complete e := by
    intro e he
    rw [List.eq_of_mem_replicate he]
    exact blankRecord.complete
  have hread : (fun e => (Response.read device e).toOption) blankRecord.element =
      some (blankResponse device) := rfl
  rw [Response.scan, Family.items_scan, hbytes, Family.split_append hcomplete]
  dsimp only
  have hnil : (family.split []).elements = [] := by
    rw [Family.split_of_error (f := family) (by rfl)]
  rw [hnil, List.append_nil]
  exact List.filterMap_replicate_of_some hread

theorem size_blankResponse (device : Address) :
    Response.layout.size (blankResponse device) = 58 := by
  have hbody : Body.layout.size (.announcement ⟨0, [""]⟩) = 21 := rfl
  simp only [blankResponse, Response.layout, Layout.size_record, Fields.size_cons, Fields.size_nil,
    Layout.size_u8, Layout.size_address, Layout.size_bytes, hbody, List.length_singleton]

end Service

namespace Foreign

theorem event_announcements (n : Nat) :
    ∃ device, (announcements n).event =
      .ok (.serviceResponses (List.replicate n (Service.blankResponse device))) := by
  have hlength : ([2, 0, 0, 0, 0, 1] : Bytes).length = 6 := rfl
  have hevent : (announcements n).event =
      .ok (.serviceResponses (Service.Response.scan ⟨[2, 0, 0, 0, 0, 1], hlength⟩
        (List.replicate n [4, 0, 2, 0, 0, 0]).flatten).items) := rfl
  rw [Service.items_scan_replicate] at hevent
  exact ⟨_, hevent⟩

theorem size_announcements (n : Nat) : Notification.layout.size (announcements n) = 30 + 6 * n := by
  have haddress : ([2, 0, 0, 0, 0, 1] : Bytes).length = 6 := rfl
  have hrecords : (List.replicate n ([4, 0, 2, 0, 0, 0] : Bytes)).flatten.length = 6 * n := by
    rw [List.length_flatten, List.map_replicate, List.sum_replicate_nat]
    exact Nat.mul_comm _ _
  rw [announcements, Notification.size_layout, Notification.contentSize, Layout.size_buffer_some,
    Layout.size_buffer_some, hrecords, haddress]
  omega

theorem size_blankResponses (device : Address) (n : Nat) :
    Event.layout.size (.serviceResponses (List.replicate n (Service.blankResponse device))) =
      12 + 58 * n := by
  rw [Event.size_layout, Event.contentSize, Layout.size_list, List.map_replicate,
    List.sum_replicate_nat, Service.size_blankResponse]
  omega

/-! ### Which events have a frame -/

/-- **Which events have a frame**: those that are not longer than frames may be, as the event of a
short notification is not. For any other event, and for no other reason, a call with room for any
frame ends with the code for bad arguments. -/
theorem deliverable_of_read {input : Bytes} {c : Notification} {size : Nat}
    (hread : Frame.read Notification.layout input = .ok ⟨c, size⟩) :
    (∀ event, c.event = .ok event →
      3 * (Event.layout.encode event).length ≤ 29 * (size - Frame.prefixLength) ∧
        ((∃ frame, Frame.encode Event.layout event = .ok frame) ↔
          (Event.layout.encode event).length ≤ Frame.maxPayload) ∧
        (size - Frame.prefixLength ≤ safePayload →
          ∃ frame, Frame.encode Event.layout event = .ok frame)) ∧
    ∀ (handle : Handle) (buffer : Bytes),
      Frame.prefixLength + Frame.maxPayload ≤ buffer.length →
        ((decode (some handle) (some input) (some buffer)).status.code = -1 ↔
          ∃ event, c.event = .ok event ∧
            Frame.maxPayload < (Event.layout.encode event).length) ∧
        (size - Frame.prefixLength ≤ safePayload →
          (decode (some handle) (some input) (some buffer)).status.code ≠ -1) := by
  have hgrows : ∀ event, c.event = .ok event →
      3 * (Event.layout.encode event).length ≤ 29 * (size - Frame.prefixLength) := by
    intro event hevent
    have hlength := Notification.length_encode_event_le hevent
    have hpayload := Frame.length_encode_le_of_read Notification.coherent_layout hread
    omega
  have hsafe : size - Frame.prefixLength ≤ safePayload → ∀ event, c.event = .ok event →
      (Event.layout.encode event).length ≤ Frame.maxPayload := by
    intro hsize event hevent
    have hlength := hgrows event hevent
    rw [safePayload] at hsize
    omega
  refine ⟨fun event hevent => ⟨hgrows event hevent, Frame.exists_encode_iff, fun hsize =>
    Frame.exists_encode_iff.2 (hsafe hsize event hevent)⟩, fun handle buffer hbuffer => ?_⟩
  have hcode := code_eq_neg_one_iff_of_read hread handle hbuffer
  refine ⟨hcode, fun hsize hbad => ?_⟩
  obtain ⟨event, hevent, hlt⟩ := hcode.1 hbad
  exact absurd (hsafe hsize event hevent) (by omega)

/-- The event of a hundred announcements is nine times as long as their notification, and has a
frame. -/
theorem deliverable_of_read_announcements :
    ∃ frame event, Frame.read Notification.layout frame = .ok ⟨announcements 100, 634⟩ ∧
      (announcements 100).event = .ok event ∧ (Event.layout.encode event).length = 5812 ∧
      3 * (Event.layout.encode event).length ≤ 29 * (634 - Frame.prefixLength) ∧
      (∃ frame', Frame.encode Event.layout event = .ok frame') ∧
      (decode (some ⟨"p2p0"⟩) (some frame)
        (some (List.replicate (Frame.prefixLength + Frame.maxPayload) 0))).status.code ≠ -1 := by
  have hmax : Frame.maxPayload = 16777216 := rfl
  have hprefix : Frame.prefixLength = 4 := rfl
  have hsize : (Notification.layout.encode (announcements 100)).length = 30 + 6 * 100 :=
    size_announcements 100
  obtain ⟨device, hevent⟩ := event_announcements 100
  have hlength : (Event.layout.encode (.serviceResponses
      (List.replicate 100 (Service.blankResponse device)))).length = 12 + 58 * 100 :=
    size_blankResponses device 100
  obtain ⟨frame, hframe⟩ := Frame.exists_encode_iff.2 (hsize.trans_le (by omega))
  have hread := Frame.read_of_encode (R := Eq) Notification.coherent_layout hframe []
  have hframeLength : frame.length = 634 := by
    rw [Frame.length_of_encode hframe]
    omega
  rw [List.append_nil, hframeLength] at hread
  have hsafe : 634 - Frame.prefixLength ≤ safePayload := by decide
  have hbuffer : Frame.prefixLength + Frame.maxPayload ≤
      (List.replicate (Frame.prefixLength + Frame.maxPayload) (0 : UInt8)).length := by
    rw [List.length_replicate]
  obtain ⟨hevents, hcalls⟩ := deliverable_of_read hread
  obtain ⟨hgrows, -, hencodes⟩ := hevents _ hevent
  exact ⟨frame, _, hread, hevent, hlength, hgrows, hencodes hsafe,
    (hcalls ⟨"p2p0"⟩ _ hbuffer).2 hsafe⟩

/-! ### An event without a frame -/

/-- A notification of less than a ninth of what frames may take, whose event has no frame: a call
with its frame says that its arguments are bad, whatever its buffer. -/
theorem tooLarge_of_announcements :
    ∃ frame event, Frame.encode Notification.layout (announcements 289263) = .ok frame ∧
      Frame.read Notification.layout frame = .ok ⟨announcements 289263, 1735612⟩ ∧
      (announcements 289263).event = .ok event ∧
      Frame.encode Event.layout event = .error .tooLarge ∧
      ∀ (handle : Handle) (buffer : Bytes),
        (decode (some handle) (some frame) (some buffer)).status.code = -1 := by
  have hmax : Frame.maxPayload = 16777216 := rfl
  have hprefix : Frame.prefixLength = 4 := rfl
  have hsize : (Notification.layout.encode (announcements 289263)).length = 30 + 6 * 289263 :=
    size_announcements 289263
  obtain ⟨device, hevent⟩ := event_announcements 289263
  have hlarge : (Event.layout.encode (.serviceResponses
      (List.replicate 289263 (Service.blankResponse device)))).length = 12 + 58 * 289263 :=
    size_blankResponses device 289263
  obtain ⟨frame, hframe⟩ := Frame.exists_encode_iff.2 (hsize.trans_le (by omega))
  have hread := Frame.read_of_encode (R := Eq) Notification.coherent_layout hframe []
  have hlength : frame.length = 1735612 := by
    rw [Frame.length_of_encode hframe]
    omega
  rw [List.append_nil, hlength] at hread
  have htooLarge := Frame.encode_of_lt (by rw [hlarge]; omega : Frame.maxPayload < _)
  refine ⟨frame, _, hframe, hread, hevent, htooLarge, ?_⟩
  rintro ⟨interface⟩ buffer
  obtain ⟨after, -, hends⟩ := ends_of_read interface hread buffer
  refine hends.code_eq_neg_one_iff.2 ⟨_, hevent, fun frame' hframe' => ?_⟩
  rw [htooLarge] at hframe'
  cases hframe'

end Foreign

end WifiDirect
