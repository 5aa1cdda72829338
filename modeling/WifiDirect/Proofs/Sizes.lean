import WifiDirect.Proofs.AddressText
import WifiDirect.Proofs.LayoutLaws
import WifiDirect.Proofs.Replacement
import WifiDirect.Decode

/-!
# How many bytes values take

The number of bytes that a layout writes a value in, as a sum over its parts: of numbers and texts,
of optional values, lists and tables, of records and choices, and from these of what events and
notifications are made of (`Event.size_layout`, `Notification.size_layout`).
-/

namespace WifiDirect

variable {α β : Type}

/-- The number of bytes that a value takes. -/
def Layout.size (l : Layout α) (a : α) : Nat := (l.encode a).length

/-- The number of bytes that the fields of a record take. -/
def Fields.size (fields : Fields β) (b : β) : Nat := (fields.encode b).length

/-! ### Single values -/

namespace Layout

@[simp] theorem size_withDefault (l : Layout α) (a b : α) : (l.withDefault a).size b = l.size b :=
  rfl

@[simp] theorem size_u8 (n : UInt8) : u8.size n = 1 := Bytes.length_littleEndian 1 _

@[simp] theorem size_u16 (n : UInt16) : u16.size n = 2 := Bytes.length_littleEndian 2 _

@[simp] theorem size_u32 (n : UInt32) : u32.size n = 4 := Bytes.length_littleEndian 4 _

@[simp] theorem size_i32 (i : Int32) : i32.size i = 4 := Bytes.length_littleEndian 4 _

@[simp] theorem size_bool (b : Bool) : bool.size b = 1 := rfl

@[simp] theorem size_text (s : String) : text.size s = 8 + s.utf8ByteSize := by
  rw [Utf8.utf8ByteSize_eq_length_bytes]
  exact length_encodeText s

@[simp] theorem size_address (a : Address) : address.size a = 25 := by
  have hlength := length_encodeText a.text
  rw [Address.length_bytes_text] at hlength
  exact hlength

@[simp] theorem size_ipv4 (ip : Ipv4) : ipv4.size ip = 4 := rfl

/-! ### Optional values, lists and tables -/

@[simp] theorem size_optional_none (l : Layout α) : (optional l).size none = 1 := rfl

@[simp] theorem size_optional_some (l : Layout α) (a : α) :
    (optional l).size (some a) = 1 + l.size a := Nat.add_comm _ _

theorem size_optional_pos (l : Layout α) (a? : Option α) : 1 ≤ (optional l).size a? := by
  cases a? with
  | none => exact le_rfl
  | some a =>
    rw [size_optional_some]
    omega

theorem size_optional_le {l : Layout α} {k : Nat} (h : ∀ a, l.size a ≤ k) (a? : Option α) :
    (optional l).size a? ≤ 1 + k := by
  cases a? with
  | none =>
    rw [size_optional_none]
    omega
  | some a =>
    have ha := h a
    rw [size_optional_some]
    omega

@[simp] theorem size_list (l : Layout α) (as : List α) :
    (list l).size as = 8 + (as.map l.size).sum := by
  have hlength : (list l).size as = (Bytes.littleEndian 8 as.length ++ as.flatMap l.encode).length :=
    rfl
  rw [hlength, List.length_append, Bytes.length_littleEndian, List.length_flatMap]
  rfl

@[simp] theorem size_bytes (bs : Bytes) : bytes.size bs = 8 + bs.length := by
  have hone : u8.size = fun _ => 1 := funext size_u8
  rw [bytes, size_list, hone, List.map_const', List.sum_replicate_nat, Nat.mul_one]

@[simp] theorem size_buffer_none : buffer.size none = 1 := rfl

@[simp] theorem size_buffer_some (bs : Bytes) : buffer.size (some bs) = 9 + bs.length := by
  rw [buffer, size_optional_some, size_bytes, ← Nat.add_assoc]

theorem size_buffer_pos (buffer? : Option Bytes) : 1 ≤ buffer.size buffer? :=
  size_optional_pos bytes buffer?

@[simp] theorem size_table (t : Text.Table) :
    table.size t = 8 + (t.entries.flatMap encodeEntry).length := by
  have hlength : table.size t =
      (Bytes.littleEndian 8 t.entries.length ++ t.entries.flatMap encodeEntry).length := rfl
  rw [hlength, List.length_append, Bytes.length_littleEndian]

theorem length_encodeEntry (e : String × String) :
    (encodeEntry e).length = 16 + e.1.utf8ByteSize + e.2.utf8ByteSize := by
  rw [encodeEntry, List.length_append, length_encodeText, length_encodeText,
    Utf8.utf8ByteSize_eq_length_bytes, Utf8.utf8ByteSize_eq_length_bytes]
  omega

end Layout

/-! ### Records -/

@[simp] theorem Fields.size_nil : Fields.nil.size () = 0 := rfl

@[simp] theorem Fields.size_cons (name : String) (l : Layout α) (rest : Fields β) (a : α) (b : β) :
    (Fields.cons name l rest).size (a, b) = l.size a + rest.size b :=
  List.length_append

@[simp] theorem Layout.size_record (fields : Fields β) (arity : Arity) (parts : α → β)
    (build : β → α) (a : α) : (record fields arity parts build).size a = fields.size (parts a) :=
  rfl

/-! ### Parts of events -/

@[simp] theorem Availability.size_layout (a : Availability) : layout.size a = 4 := by
  cases a <;> rfl

@[simp] theorem GroupStatus.size_layout (s : GroupStatus) : layout.size s = 4 := by
  cases s <;> rfl

@[simp] theorem Setup.size_layout (s : Setup) : layout.size s = 4 := by
  cases s <;> rfl

@[simp] theorem ProvisionFailure.size_layout (f : ProvisionFailure) : layout.size f = 4 := by
  cases f <;> rfl

theorem DisplayInfo.size_layout_le (d : DisplayInfo) : layout.size d ≤ 9 := by
  have hrelease := Layout.size_optional_le (fun n => (Layout.size_u16 n).le) d.secondRelease?
  simp only [layout, Layout.size_record, Fields.size_cons, Fields.size_nil, Layout.size_u16]
  omega

@[simp] theorem ClientAddresses.size_layout (a : ClientAddresses) : layout.size a = 12 := rfl

@[simp] theorem InformationElement.size_layout (e : InformationElement) :
    layout.size e = 9 + (Layout.optional .u8).size e.extension? + e.bytes.length := by
  simp only [layout, Layout.size_record, Fields.size_cons, Fields.size_nil, Layout.size_u8,
    Layout.size_bytes]
  omega

theorem Peer.size_layout_le (p : Peer) :
    layout.size p ≤ 70 + p.name.utf8ByteSize + p.deviceType.utf8ByteSize +
      (p.vendorElements.map InformationElement.layout.size).sum := by
  have hdisplay := Layout.size_optional_le DisplayInfo.size_layout_le p.display?
  simp only [layout, Layout.size_record, Fields.size_cons, Fields.size_nil, Layout.size_u8,
    Layout.size_u16, Layout.size_i32, Layout.size_address, Layout.size_text, Layout.size_list,
    Availability.size_layout]
  omega

@[simp] theorem Peer.size_layout_ofAddress (a : Address) : layout.size (ofAddress a) = 61 := by
  simp only [ofAddress, layout, Layout.size_record, Fields.size_cons, Fields.size_nil,
    Layout.size_u8, Layout.size_u16, Layout.size_i32, Layout.size_address, Layout.size_text,
    Layout.size_list, Availability.size_layout, Layout.size_optional_none, List.map_nil,
    List.sum_nil]
  rfl

theorem Group.size_layout_le (g : Group) :
    layout.size g ≤ 56 + (Layout.optional .text).size g.interface? +
      (Layout.optional .text).size g.networkName? + Peer.layout.size g.owner +
      (g.clients.map Peer.layout.size).sum + (Layout.optional .text).size g.passphrase? := by
  have haddress := Layout.size_optional_le (fun a => (Layout.size_address a).le) g.interfaceAddress?
  have hclient := Layout.size_optional_le (fun a => (ClientAddresses.size_layout a).le)
    g.clientAddresses?
  simp only [layout, Layout.size_record, Fields.size_cons, Fields.size_nil, Layout.size_bool,
    Layout.size_i32, Layout.size_list]
  omega

/-- An outcome is one of five cases, and a shown number is the longest of them. -/
theorem Outcome.size_layout_le {o : Outcome} {k : Nat}
    (h : ∀ pin, o = .showPin pin → pin.utf8ByteSize ≤ k) : layout.size o ≤ 12 + k := by
  cases o with
  | showPin pin =>
    have hpin := h pin rfl
    have hsize : layout.size (.showPin pin) = Layout.text.size pin + 4 := rfl
    rw [hsize, Layout.size_text]
    omega
  | failure reason =>
    have hsize : layout.size (.failure reason) = ProvisionFailure.layout.size reason + 4 := rfl
    rw [hsize, ProvisionFailure.size_layout]
    omega
  | enterPin | pushButtonRequest | pushButtonResponse =>
    exact Nat.le_add_right_of_le (by decide)

theorem RemovedGroup.size_layout (g : RemovedGroup) :
    layout.size g = Layout.text.size g.interface + 1 := by
  simp only [layout, Layout.size_record, Fields.size_cons, Fields.size_nil, Layout.size_bool]

theorem NegotiationRequest.size_layout (r : NegotiationRequest) : layout.size r = 29 := by
  simp only [layout, Layout.size_record, Fields.size_cons, Fields.size_nil, Layout.size_address,
    Setup.size_layout]

/-! ### Parts of notifications -/

theorem Sighting.size_layout (s : Sighting) :
    layout.size s = Layout.buffer.size s.sourceAddress? + Layout.buffer.size s.peerAddress? +
      Layout.buffer.size s.deviceType? + (Layout.optional .text).size s.deviceName? +
      Layout.buffer.size s.display? + 7 := by
  simp only [layout, Layout.size_record, Fields.size_cons, Fields.size_nil, Layout.size_u8,
    Layout.size_u16, Layout.size_i32]
  omega

theorem FullSighting.size_layout (s : FullSighting) :
    layout.size s = Sighting.layout.size s.toSighting + Layout.buffer.size s.displayRelease2? +
      Layout.buffer.size s.vendorElements? := by
  rw [Sighting.size_layout]
  simp only [layout, layoutWith, Layout.size_record, Fields.size_cons, Fields.size_nil,
    Layout.size_u8, Layout.size_u16, Layout.size_i32]
  omega

/-- The long form of a report takes a byte for each part that the short form lacks. -/
theorem Sighting.size_layout_full (s : Sighting) :
    FullSighting.layout.size s.full = layout.size s + 2 := FullSighting.size_layout s.full

theorem GroupStart.size_layout (s : GroupStart) :
    layout.size s = (Layout.optional .text).size s.interface? + Layout.buffer.size s.ssid? +
      (Layout.optional .text).size s.passphrase? + Layout.buffer.size s.ownerAddress? + 6 := by
  simp only [layout, Layout.size_record, Fields.size_cons, Fields.size_nil, Layout.size_bool,
    Layout.size_i32]
  omega

theorem FullGroupStart.size_layout (s : FullGroupStart) :
    layout.size s = GroupStart.layout.size s.toGroupStart +
      Layout.buffer.size s.interfaceAddress? + (Layout.optional ClientWords.layout).size s.clientWords? +
      1 := by
  rw [GroupStart.size_layout]
  simp only [layout, Layout.size_record, Fields.size_cons, Fields.size_nil, Layout.size_withDefault,
    Layout.size_bool, Layout.size_i32]
  omega

theorem GroupStart.size_layout_full (s : GroupStart) :
    FullGroupStart.layout.size s.full = layout.size s + 3 := FullGroupStart.size_layout s.full

theorem ProvisionReport.size_layout (r : ProvisionReport) :
    layout.size r = Layout.buffer.size r.peerAddress? + (Layout.optional .text).size r.pin? + 4 := by
  simp only [layout, Layout.size_record, Fields.size_cons, Fields.size_nil, Layout.size_bool,
    Layout.size_u8, Layout.size_u16]
  omega

theorem FullProvisionReport.size_layout (r : FullProvisionReport) :
    layout.size r = ProvisionReport.layout.size r.toProvisionReport +
      (Layout.optional .text).size r.groupInterface? := by
  rw [ProvisionReport.size_layout]
  simp only [layout, Layout.size_record, Fields.size_cons, Fields.size_nil, Layout.size_withDefault,
    Layout.size_bool, Layout.size_u8, Layout.size_u16]
  omega

theorem ProvisionReport.size_layout_full (r : ProvisionReport) :
    FullProvisionReport.layout.size r.full = layout.size r + 1 := FullProvisionReport.size_layout r.full

theorem Invitation.size_layout (i : Invitation) :
    layout.size i = Layout.buffer.size i.sourceAddress? + Layout.buffer.size i.ownerAddress? +
      Layout.buffer.size i.networkAddress? + 8 := by
  simp only [layout, Layout.size_record, Fields.size_cons, Fields.size_nil, Layout.size_i32]
  omega

theorem Station.size_layout (s : Station) :
    layout.size s = Layout.buffer.size s.sourceAddress? + Layout.buffer.size s.peerAddress? := by
  simp only [layout, Layout.size_record, Fields.size_cons, Fields.size_nil]
  omega

/-! ### Events and notifications -/

/-- The number of bytes that the content of an event takes. -/
def Event.contentSize : Event → Nat
  | .deviceFound p | .deviceLost p | .stationAuthorized p | .stationDeauthorized p =>
    Peer.layout.size p
  | .negotiationRequest r => NegotiationRequest.layout.size r
  | .negotiationFailure s | .invitationResult s => GroupStatus.layout.size s
  | .groupStarted g | .invitationReceived g => Group.layout.size g
  | .formationFailure reason => Layout.text.size reason
  | .groupRemoved g => RemovedGroup.layout.size g
  | .provision p => Provision.layout.size p
  | .serviceResponses rs => (Layout.list Service.Response.layout).size rs
  | .findStopped | .negotiationSuccess | .formationSuccess => 0

/-- **An event is the number of its case and its content.** -/
theorem Event.size_layout (e : Event) : layout.size e = e.contentSize + 4 := by
  cases e <;> rfl

/-- The number of bytes that the content of a notification takes. -/
def Notification.contentSize : Notification → Nat
  | .deviceFound s => Sighting.layout.size s
  | .deviceFoundWithElements s | .deviceFoundWithParams s => FullSighting.layout.size s
  | .deviceLost peerAddress? => Layout.buffer.size peerAddress?
  | .negotiationRequest sourceAddress? _ => Layout.buffer.size sourceAddress? + 4
  | .negotiationCompleted _ => 4
  | .groupStarted s => GroupStart.layout.size s
  | .groupStartedWithParams s => FullGroupStart.layout.size s
  | .formationFailure reason => Layout.text.size reason
  | .groupRemoved interface _ => Layout.text.size interface + 1
  | .provisionCompleted r => ProvisionReport.layout.size r
  | .provisionCompletedWithParams r => FullProvisionReport.layout.size r
  | .invitationReceived i => Invitation.layout.size i
  | .invitationResult networkAddress? _ => Layout.buffer.size networkAddress? + 4
  | .stationAuthorized s | .stationDeauthorized s => Station.layout.size s
  | .serviceResponse sourceAddress? _ records? =>
    Layout.buffer.size sourceAddress? + Layout.buffer.size records? + 2
  | .findStopped | .formationSuccess => 0

/-- **A notification is the number of its case and its content.** -/
theorem Notification.size_layout (c : Notification) : layout.size c = c.contentSize + 4 := by
  cases c with
  | deviceLost peerAddress? =>
    have hsize : layout.size (.deviceLost peerAddress?) =
        (Fields.cons "p2p_device_address" .buffer .nil).size (peerAddress?, ()) + 4 := rfl
    rw [hsize, Fields.size_cons, Fields.size_nil]
    rfl
  | negotiationRequest sourceAddress? passwordId =>
    have hsize : layout.size (.negotiationRequest sourceAddress? passwordId) =
        (Fields.cons "src_address" .buffer <| .cons "password_id" .i32 .nil).size
          (sourceAddress?, passwordId, ()) + 4 := rfl
    rw [hsize, Fields.size_cons, Fields.size_cons, Fields.size_nil, Layout.size_i32]
    rfl
  | negotiationCompleted status => rfl
  | formationFailure reason =>
    have hsize : layout.size (.formationFailure reason) =
        (Fields.cons "failure_reason" .text .nil).size (reason, ()) + 4 := rfl
    rw [hsize, Fields.size_cons, Fields.size_nil]
    rfl
  | groupRemoved interface isOwner =>
    have hsize : layout.size (.groupRemoved interface isOwner) =
        (Fields.cons "group_interface_name" .text <| .cons "is_group_owner" .bool .nil).size
          (interface, isOwner, ()) + 4 := rfl
    rw [hsize, Fields.size_cons, Fields.size_cons, Fields.size_nil, Layout.size_bool]
    rfl
  | invitationResult networkAddress? status =>
    have hsize : layout.size (.invitationResult networkAddress? status) =
        (Fields.cons "bssid" .buffer <| .cons "status" .i32 .nil).size
          (networkAddress?, status, ()) + 4 := rfl
    rw [hsize, Fields.size_cons, Fields.size_cons, Fields.size_nil, Layout.size_i32]
    rfl
  | serviceResponse sourceAddress? updateIndicator records? =>
    have hsize : layout.size (.serviceResponse sourceAddress? updateIndicator records?) =
        (Fields.cons "src_address" .buffer <| .cons "update_indicator" .u16 <|
          .cons "tlvs" .buffer .nil).size (sourceAddress?, updateIndicator, records?, ()) + 4 := rfl
    rw [hsize, Fields.size_cons, Fields.size_cons, Fields.size_cons, Fields.size_nil,
      Layout.size_u16, contentSize]
    omega
  | _ => rfl

end WifiDirect
