import WifiDirect.Proofs.Decoding
import WifiDirect.Proofs.ServiceNames
import WifiDirect.Proofs.ServiceRecords

/-!
# Events say no more than their notifications

`Notification.faithful_of_event`: every address in an event is supplied by its notification, only a
device that was found is available, and devices, groups, stations and service responses have what
the reports of them say.

All of this holds of what `Reports` relates, which is where decoding ends.
-/

namespace WifiDirect

/-! ### Service responses -/

namespace Service

/-- An answer to a name query has what was asked for: the name of an instance or a table of texts. -/
def NameAnswer.Answered (a : NameAnswer) : Prop :=
  a.recordType = 12 ∧ a.instanceName?.isSome ∧ a.texts = .empty ∨
    a.recordType = 16 ∧ a.instanceName? = none

theorem NameAnswer.answered_of_parse? {data : Bytes} {answer : NameAnswer}
    (h : NameAnswer.parse? data = some answer) : answer.Answered := by
  cases NameAnswer.parse?_eq_some_iff.1 h with
  | naming => exact .inl ⟨rfl, rfl, rfl⟩
  | listing => exact .inr ⟨rfl, rfl⟩

theorem Means.answered {protocol : UInt8} {data : Bytes} {answer : NameAnswer}
    (h : Means protocol data (.nameAnswer answer)) : answer.Answered := by
  cases h with
  | nameAnswer _ hparse => exact NameAnswer.answered_of_parse? hparse

/-- A response is one of a device that reports success, with data that are not too long and with the
body that they mean. -/
structure Response.Sound (source? : Option Bytes) (r : Response) : Prop where
  device : source? = some r.device.octets
  status : r.status = 0
  length_data : r.data.length ≤ 1024
  means : Means r.protocol r.data r.body
  answered : ∀ answer, r.body = .nameAnswer answer → answer.Answered

theorem Response.sound_of_mem_scan {device : Address} {bs : Bytes} {r : Response}
    (h : r ∈ (Response.scan device bs).items) : r.Sound (some device.octets) := by
  obtain ⟨e, -, hread⟩ := Family.exists_of_mem_items_scan h
  obtain ⟨-, hlength, body, hmeans, rfl⟩ := Response.read_eq_ok_iff.1 hread
  refine ⟨rfl, rfl, hlength, hmeans, ?_⟩
  rintro answer rfl
  exact hmeans.answered

end Service

/-! ### Addresses and devices -/

/-- The devices in an event. -/
def Event.devices : Event → List Peer
  | .deviceFound p | .deviceLost p | .stationAuthorized p | .stationDeauthorized p => [p]
  | .groupStarted g | .invitationReceived g => g.owner :: g.clients
  | .provision p => [p.device]
  | .negotiationRequest _ | .serviceResponses _ | .findStopped | .negotiationSuccess
  | .negotiationFailure _ | .formationSuccess | .formationFailure _ | .groupRemoved _
  | .invitationResult _ => []

/-- The addresses in an event beside those of its devices: of the interface of a group, of who asks
to negotiate and of who answers a service query. -/
def Event.furtherAddresses : Event → List Address
  | .groupStarted g | .invitationReceived g => g.interfaceAddress?.toList
  | .negotiationRequest r => [r.device]
  | .serviceResponses rs => rs.map Service.Response.device
  | .deviceFound _ | .deviceLost _ | .stationAuthorized _ | .stationDeauthorized _ | .provision _
  | .findStopped | .negotiationSuccess | .negotiationFailure _ | .formationSuccess
  | .formationFailure _ | .groupRemoved _ | .invitationResult _ => []

/-- The hardware addresses in an event. -/
def Event.addresses (e : Event) : List Address :=
  e.devices.map Peer.address ++ e.furtherAddresses

/-- The buffers with addresses that a notification supplies. That of a network is left out, as no
event carries it. -/
def Notification.addressBuffers : Notification → List (Option Bytes)
  | .deviceFound s => [s.sourceAddress?, s.peerAddress?]
  | .deviceFoundWithElements s | .deviceFoundWithParams s => [s.sourceAddress?, s.peerAddress?]
  | .deviceLost address? | .negotiationRequest address? _ | .serviceResponse address? _ _ =>
    [address?]
  | .groupStarted s => [s.ownerAddress?]
  | .groupStartedWithParams s => [s.ownerAddress?, s.interfaceAddress?]
  | .provisionCompleted r => [r.peerAddress?]
  | .provisionCompletedWithParams r => [r.peerAddress?]
  | .invitationReceived i => [i.sourceAddress?, i.ownerAddress?]
  | .stationAuthorized s | .stationDeauthorized s => [s.sourceAddress?, s.peerAddress?]
  | .negotiationCompleted _ | .invitationResult .. | .findStopped | .formationSuccess
  | .formationFailure _ | .groupRemoved .. => []

namespace Notification

variable {c : Notification} {a : Address}

theorem mem_addressBuffers_of_sighting? {s : FullSighting} (hc : c.sighting? = some s) :
    s.peerAddress? ∈ c.addressBuffers := by
  cases c <;> cases hc <;> exact .tail _ (.head _)

theorem mem_addressBuffers_of_groupStart? {s : FullGroupStart} (hc : c.groupStart? = some s) :
    s.ownerAddress? ∈ c.addressBuffers ∧
      (s.interfaceAddress? = none ∨ s.interfaceAddress? ∈ c.addressBuffers) := by
  cases c <;> cases hc
  · exact ⟨.head _, .inl rfl⟩
  · exact ⟨.head _, .inr (.tail _ (.head _))⟩

theorem mem_addressBuffers_of_provisionReport? {r : FullProvisionReport}
    (hc : c.provisionReport? = some r) : r.peerAddress? ∈ c.addressBuffers := by
  cases c <;> cases hc <;> exact .head _

end Notification

theorem GoesBy.mem {s : Station} {a : Address} (h : GoesBy s a) :
    some a.octets ∈ [s.sourceAddress?, s.peerAddress?] := by
  rcases h with ⟨hpeer, -⟩ | ⟨-, hsource⟩
  · exact hpeer ▸ .tail _ (.head _)
  · exact hsource ▸ .head _

/-- Only an unknown address from an unknown address is an unknown one. -/
theorem GoesBy.eq_zero {s : Station} (h : GoesBy s .zero) :
    s.peerAddress? = some Address.zero.octets ∧ s.sourceAddress? = some Address.zero.octets := by
  rcases h with ⟨-, hne⟩ | h
  · exact absurd rfl hne
  · exact h

namespace Reports

variable {c : Notification} {e : Event}

/-- Of a device that was not found only the address is known, and it is supplied. -/
theorem eq_ofAddress_of_mem_devices (h : Reports c e) (hfound : ∀ p, e ≠ .deviceFound p) :
    ∀ p ∈ e.devices, ∃ a : Address, some a.octets ∈ c.addressBuffers ∧ p = .ofAddress a := by
  intro p hp
  cases h with
  | deviceFound => exact absurd rfl (hfound _)
  | deviceLost a =>
    cases List.mem_singleton.1 hp
    exact ⟨a, .head _, rfl⟩
  | groupStarted hc h =>
    obtain ⟨owner, howner, hg⟩ := h.owner
    rw [Event.devices, h.clients, List.mem_singleton] at hp
    exact ⟨owner, howner ▸ (Notification.mem_addressBuffers_of_groupStart? hc).1, hp.trans hg⟩
  | provision a hc ha hdevice =>
    cases List.mem_singleton.1 hp
    exact ⟨a, ha ▸ Notification.mem_addressBuffers_of_provisionReport? hc, hdevice⟩
  | invitationReceived h =>
    obtain ⟨owner, howner, hg⟩ := h.owner
    obtain ⟨client, hclient, hclients⟩ := h.clients
    rw [Event.devices, hclients] at hp
    rcases List.mem_cons.1 hp with rfl | hp
    · exact ⟨owner, howner ▸ .tail _ (.head _), hg⟩
    · exact ⟨client, hclient ▸ .head _, List.mem_singleton.1 hp⟩
  | stationAuthorized h | stationDeauthorized h =>
    cases List.mem_singleton.1 hp
    exact ⟨_, h.mem, rfl⟩
  | findStopped | negotiationRequest | negotiationSuccess | negotiationFailure | formationSuccess
  | formationFailure | groupRemoved | invitationResult | serviceResponses => cases hp

/-- **No address is invented.** -/
theorem supplied (h : Reports c e) : ∀ a ∈ e.addresses, some a.octets ∈ c.addressBuffers := by
  intro a ha
  rcases List.mem_append.1 ha with ha | ha
  · obtain ⟨p, hp, rfl⟩ := List.mem_map.1 ha
    -- a device that was found has more than an address, all others are made of theirs
    by_cases hfound : ∀ p, e ≠ .deviceFound p
    · obtain ⟨a, hbuffer, rfl⟩ := h.eq_ofAddress_of_mem_devices hfound p hp
      exact hbuffer
    · cases h with
      | deviceFound hc h =>
        cases List.mem_singleton.1 hp
        exact h.address ▸ Notification.mem_addressBuffers_of_sighting? hc
      | _ => exact absurd nofun hfound
  · cases h with
    | negotiationRequest a' =>
      cases List.mem_singleton.1 ha
      exact .head _
    | groupStarted hc h =>
      have hbuffer := h.interfaceAddress a (Option.mem_toList.1 ha)
      rcases (Notification.mem_addressBuffers_of_groupStart? hc).2 with hnone | hmem
      · rw [hbuffer] at hnone
        cases hnone
      · exact hbuffer ▸ hmem
    | invitationReceived h =>
      rw [Event.furtherAddresses, h.interfaceAddress] at ha
      cases ha
    | serviceResponses a' updateIndicator records? =>
      obtain ⟨r, hr, rfl⟩ := List.mem_map.1 ha
      exact (Service.Response.sound_of_mem_scan hr).device ▸ .head _
    | deviceFound | deviceLost | stationAuthorized | stationDeauthorized | provision | findStopped
    | negotiationSuccess | negotiationFailure | formationSuccess | formationFailure | groupRemoved
    | invitationResult => cases ha

end Reports

/-! ### Events -/

/-- The station that a notification reports. -/
def Notification.station? : Notification → Option Station
  | .stationAuthorized s | .stationDeauthorized s => some s
  | _ => none

/-- The buffer with the address of who answers a service query. -/
def Notification.responder? : Notification → Option Bytes
  | .serviceResponse sourceAddress? _ _ => sourceAddress?
  | _ => none

/-- **An event says no more than its notification.** -/
structure Faithful (c : Notification) (e : Event) : Prop where
  /-- Each address is one that is supplied, byte for byte. -/
  supplied : ∀ a ∈ e.addresses, some a.octets ∈ c.addressBuffers
  /-- A device that was found is available, with display information exactly if six bytes of it are
  supplied, and with elements of vendors only. -/
  deviceFound : ∀ p, e = .deviceFound p → ∃ s, c.sighting? = some s ∧ Shows s p
  /-- Every other device is unavailable. -/
  unavailable : (∀ p, e ≠ .deviceFound p) → ∀ p ∈ e.devices, p.availability = .unavailable
  /-- A group that was started has the interface, the network and the addresses of its report. -/
  groupStarted : ∀ g, e = .groupStarted g → ∃ s, c.groupStart? = some s ∧ Starts s g
  /-- A station goes by an unknown address only if both that are supplied are unknown. -/
  station : ∀ p, e = .stationAuthorized p ∨ e = .stationDeauthorized p → p.address = .zero →
    ∃ s, c.station? = some s ∧ s.peerAddress? = some Address.zero.octets ∧
      s.sourceAddress? = some Address.zero.octets
  /-- The responses are those of the device that answers, and each reports success. -/
  response : ∀ rs, e = .serviceResponses rs → ∀ r ∈ rs, r.Sound c.responder?

theorem Reports.faithful {c : Notification} {e : Event} (h : Reports c e) : Faithful c e where
  supplied := h.supplied
  deviceFound := by
    rintro p rfl
    cases h with
    | deviceFound hc h => exact ⟨_, hc, h⟩
  unavailable hfound p hp := by
    obtain ⟨a, -, rfl⟩ := h.eq_ofAddress_of_mem_devices hfound p hp
    rfl
  groupStarted := by
    rintro g rfl
    cases h with
    | groupStarted hc h => exact ⟨_, hc, h⟩
  station := by
    rintro p (rfl | rfl) hzero
    · cases h with
      | stationAuthorized h =>
        cases hzero
        exact ⟨_, rfl, h.eq_zero⟩
    · cases h with
      | stationDeauthorized h =>
        cases hzero
        exact ⟨_, rfl, h.eq_zero⟩
  response := by
    rintro rs rfl r hr
    cases h with
    | serviceResponses => exact Service.Response.sound_of_mem_scan hr

/-- **Every event says no more than the notification that it is decoded from.** -/
theorem Notification.faithful_of_event {c : Notification} {e : Event} (h : c.event = .ok e) :
    Faithful c e :=
  (c.checked_event.of_eq_ok h).faithful

/-- A client is handed addresses, its passphrase is empty, and seven bytes are no address. -/
theorem Notification.faithful_of_event_groupStarted :
    (Notification.groupStartedWithParams ⟨⟨some "p2p-wlan0-0", false, some [68, 73], 2437, some "",
        some [2, 0, 0, 0, 0, 1], true⟩, some [2, 0, 0, 0, 0, 2, 9], true,
        some ⟨0xc831a8c0, 0x0131a8c0, 0x00ffffff⟩⟩).event =
      .ok (.groupStarted ⟨some "p2p-wlan0-0", false, some "DI", -2,
        .ofAddress ⟨[2, 0, 0, 0, 0, 1], rfl⟩, [], some "", 2437, none,
        some ⟨⟨192, 168, 49, 200⟩, ⟨192, 168, 49, 1⟩, ⟨255, 255, 255, 0⟩⟩⟩) ∧
    Faithful (.groupStartedWithParams ⟨⟨some "p2p-wlan0-0", false, some [68, 73], 2437, some "",
        some [2, 0, 0, 0, 0, 1], true⟩, some [2, 0, 0, 0, 0, 2, 9], true,
        some ⟨0xc831a8c0, 0x0131a8c0, 0x00ffffff⟩⟩)
      (.groupStarted ⟨some "p2p-wlan0-0", false, some "DI", -2,
        .ofAddress ⟨[2, 0, 0, 0, 0, 1], rfl⟩, [], some "", 2437, none,
        some ⟨⟨192, 168, 49, 200⟩, ⟨192, 168, 49, 1⟩, ⟨255, 255, 255, 0⟩⟩⟩) :=
  ⟨rfl, Notification.faithful_of_event rfl⟩

end WifiDirect
