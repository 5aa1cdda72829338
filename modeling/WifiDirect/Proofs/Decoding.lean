import WifiDirect.Decode
import WifiDirect.Proofs.Elements

/-!
# What decoding comes to

`Notification.checked_decode`: decoding fails with the first fault of a notification, and where
there is none it comes to an event that reports what the notification does (`Reports`).

Faults are listed in the order in which they are looked for. One rule puts checks one after the
other (`Checked.bind`), so that each field and each report needs one lemma, which says both what its
checks find and what is known of a result that passes them.
-/

namespace WifiDirect

/-! ### Checks -/

/-- A computation fails with the first of the faults, and without any it comes to a value with a
property. -/
inductive Checked {ε α : Type} (P : α → Prop) : List ε → Except ε α → Prop
  | passed (a : α) (h : P a) : Checked P [] (.ok a)
  | failed (fault : ε) (later : List ε) : Checked P (fault :: later) (.error fault)

namespace Checked

variable {α β ε : Type} {P : α → Prop} {Q : β → Prop} {faults later : List ε} {x : Except ε α}

/-- Checks one after the other: the faults of the first come first. -/
theorem bind {k : α → Except ε β} (h : Checked P faults x)
    (hk : ∀ a, P a → Checked Q later (k a)) : Checked Q (faults ++ later) (x >>= k) := by
  cases h with
  | passed a ha => exact hk a ha
  | failed fault rest => exact .failed fault (rest ++ later)

/-- What follows the checks cannot fail. -/
theorem bind_ok {k : α → Except ε β} (h : Checked P faults x)
    (hk : ∀ a, P a → ∃ b, k a = .ok b ∧ Q b) : Checked Q faults (x >>= k) := by
  cases h with
  | passed a ha =>
    obtain ⟨b, hb, hQ⟩ := hk a ha
    show Checked Q [] (k a)
    rw [hb]
    exact .passed b hQ
  | failed fault rest => exact .failed fault rest

theorem dropping {reasons : List Malformed} {x : Except Malformed α} (callback : String)
    (h : Checked P reasons x) :
    Checked P (reasons.map (.dropped callback)) (WifiDirect.dropping callback x) := by
  cases h with
  | passed a ha => exact .passed a ha
  | failed reason rest => exact .failed _ _

theorem eq_error_iff (h : Checked P faults x) {fault : ε} :
    x = .error fault ↔ faults.head? = some fault := by
  cases h with
  | passed a ha => exact iff_of_false nofun nofun
  | failed fault' rest => rw [Except.error.injEq, List.head?_cons, Option.some.injEq]

theorem exists_eq_ok_iff (h : Checked P faults x) : (∃ a, x = .ok a) ↔ faults = [] := by
  cases h with
  | passed a ha => exact iff_of_true ⟨a, rfl⟩ rfl
  | failed fault rest => exact iff_of_false nofun nofun

theorem of_eq_ok (h : Checked P faults x) {a : α} (ha : x = .ok a) : P a := by
  cases h with
  | passed a' h' =>
    cases ha
    exact h'
  | failed fault rest => cases ha

end Checked

/-- Whatever a computation comes to, unless it fails, is so. -/
def Yields {ε α : Type} (P : α → Prop) (x : Except ε α) : Prop :=
  ∀ a, x = .ok a → P a

namespace Yields

variable {ε α β : Type} {P : β → Prop} {Q : α → Prop}

theorem ok {b : β} (h : P b) : Yields P (.ok b : Except ε β) := by
  rintro _ ⟨⟩
  exact h

theorem mono {R : β → Prop} {x : Except ε β} (h : Yields P x) (himp : ∀ b, P b → R b) :
    Yields R x :=
  fun b hb => himp b (h b hb)

theorem bind {x : Except ε α} {k : α → Except ε β} (h : Yields Q x)
    (hk : ∀ a, Q a → Yields P (k a)) : Yields P (x >>= k) := by
  cases x with
  | ok a => exact hk a (h a rfl)
  | error fault => exact nofun

/-- What a computation comes to may do for whatever its first step comes to. -/
theorem bind_of_forall {x : Except ε α} {k : α → Except ε β} (hk : ∀ a, Yields P (k a)) :
    Yields P (x >>= k) :=
  bind (Q := fun _ => True) (fun _ _ => trivial) fun a _ => hk a

theorem dropping {x : Except Malformed β} (h : Yields P x) (callback : String) :
    Yields P (dropping callback x) := by
  cases x with
  | ok b => exact ok (h b rfl)
  | error reason => exact nofun

end Yields

theorem Checked.yields {ε α : Type} {P : α → Prop} {faults : List ε} {x : Except ε α}
    (h : Checked P faults x) : Yields P x :=
  fun _ => h.of_eq_ok

/-! ### Fields -/

/-- A buffer is supplied and has this length. -/
def HasLength (k : Nat) (buffer? : Option Bytes) : Prop :=
  buffer?.map List.length = some k

theorem hasLength_six_iff {buffer? : Option Bytes} :
    HasLength 6 buffer? ↔ ∃ a : Address, buffer? = some a.octets := by
  rw [HasLength, Option.map_eq_some_iff]
  constructor
  · rintro ⟨bs, rfl, hlength⟩
    exact ⟨⟨bs, hlength⟩, rfl⟩
  · rintro ⟨a, rfl⟩
    exact ⟨a.octets, rfl, a.length_octets⟩

/-- The faults of a buffer that has to hold an address. -/
def addressFaults (field : Field) : Option Bytes → List Malformed
  | none => [.missing field]
  | some bs => if bs.length = 6 then [] else [.address field bs.length]

/-- The fault of a field that has to have content. -/
def missingFaults {α : Type} (field : Field) : Option α → List Malformed
  | none => [.missing field]
  | some _ => []

/-- The fault of a device type, if there is one. -/
def deviceTypeFaults : Option Bytes → List Malformed
  | none => []
  | some bs => if bs.length = 8 then [] else [.deviceType bs.length]

/-- The fault of a status that a group reports: thirteen codes are known. -/
def groupStatusFaults (status : Int32) : List Rejection :=
  if 0 ≤ status.toInt ∧ status.toInt ≤ 12 then [] else [.unmapped .group status]

theorem checked_require (field : Field) (buffer? : Option Bytes) :
    Checked (fun a => buffer? = some a.octets) (addressFaults field buffer?)
      (Address.require field buffer?) := by
  cases buffer? with
  | none => exact .failed _ _
  | some bs =>
    rw [addressFaults, Address.require, Address.ofBytes]
    by_cases h : bs.length = 6
    · rw [if_pos h, dif_pos h]
      exact .passed _ rfl
    · rw [if_neg h, dif_neg h]
      exact .failed _ _

theorem checked_requireField {α : Type} (field : Field) (content? : Option α) :
    Checked (fun a => content? = some a) (missingFaults field content?)
      (requireField field content?) := by
  cases content? with
  | none => exact .failed _ _
  | some a => exact .passed a rfl

theorem checked_deviceTypeText (bs : Bytes) :
    Checked (fun _ => True) (deviceTypeFaults (some bs)) (deviceTypeText bs) := by
  rw [deviceTypeFaults]
  by_cases h : bs.length = 8
  · rw [if_pos h]
    match bs, h with
    | [c1, c2, o1, o2, o3, o4, s1, s2], _ => exact .passed _ trivial
  · rw [if_neg h]
    unfold deviceTypeText
    -- the pattern is that of eight bytes
    split
    · exact absurd rfl h
    · exact .failed _ _

theorem checked_groupStatus (status : Int32) :
    Checked (fun _ => True) (groupStatusFaults status) (GroupStatus.ofCode status) := by
  have hneg : status < 0 ↔ status.toInt < 0 := Int32.lt_iff_toInt_lt
  rw [groupStatusFaults, GroupStatus.ofCode]
  by_cases h : status < 0
  · have hlt := hneg.1 h
    rw [if_pos h, if_neg (by omega)]
    exact .failed _ _
  have hle : ¬ status.toInt < 0 := fun hlt => h (hneg.2 hlt)
  rw [if_neg h]
  cases hget : GroupStatus.all[status.toInt.toNat]? with
  | none =>
    have hlength : 13 ≤ status.toInt.toNat := List.getElem?_eq_none_iff.1 hget
    rw [if_neg (by omega)]
    exact .failed _ _
  | some s =>
    have hlength : status.toInt.toNat < 13 := (List.getElem?_eq_some_iff.1 hget).1
    rw [if_pos (by omega)]
    exact .passed s trivial

/-! ### Devices -/

/-- The faults of a sighting. The device type is measured after everything has been supplied. -/
def Sighting.faults (s : Sighting) : List Malformed :=
  addressFaults .sourceAddress s.sourceAddress? ++ (addressFaults .peerAddress s.peerAddress? ++
    (missingFaults .deviceType s.deviceType? ++ (missingFaults .deviceName s.deviceName? ++
      deviceTypeFaults s.deviceType?)))

/-- A device shows what a sighting of it reports. -/
structure Shows (s : FullSighting) (p : Peer) : Prop where
  address : s.peerAddress? = some p.address.octets
  available : p.availability = .available
  isSome_display : p.display?.isSome ↔ ∃ bs, s.display? = some bs ∧ 6 ≤ bs.length
  vendorElements : ∀ e ∈ p.vendorElements, e.id = 221 ∧ e.extension? = none ∧ e.bytes.length ≤ 255

theorem FullSighting.of_mem_scanElements {s : FullSighting} {e : InformationElement}
    (h : e ∈ s.scanElements.items) : e.id = 221 ∧ e.extension? = none ∧ e.bytes.length ≤ 255 := by
  rw [scanElements] at h
  split at h
  · cases h
  · exact InformationElement.of_mem_items_scan h

theorem FullSighting.checked_device (s : FullSighting) :
    Checked (fun found => Shows s found.1) s.toSighting.faults s.device := by
  unfold Sighting.faults FullSighting.device
  refine (checked_require _ _).bind fun _ _ => (checked_require _ _).bind fun address haddress =>
    (checked_requireField _ _).bind fun typeBytes htype =>
      (checked_requireField _ _).bind fun name hname => ?_
  rw [htype]
  exact (checked_deviceTypeText typeBytes).bind_ok fun deviceType _ => ⟨_, rfl,
    haddress, rfl, DisplayInfo.isSome_ofBytes?, fun e he => of_mem_scanElements he⟩

/-- The faults of a station. Where it sends from matters if its own address is unknown. -/
def Station.faults (s : Station) : List Malformed :=
  addressFaults .peerAddress s.peerAddress? ++
    if s.peerAddress? = some Address.zero.octets then addressFaults .sourceAddress s.sourceAddress?
    else []

/-- The address that a station goes by: its own, or if that is unknown the one it sends from. -/
def GoesBy (s : Station) (a : Address) : Prop :=
  s.peerAddress? = some a.octets ∧ a ≠ .zero ∨
    s.peerAddress? = some Address.zero.octets ∧ s.sourceAddress? = some a.octets

theorem Station.checked_device (s : Station) :
    Checked (fun p => ∃ a, GoesBy s a ∧ p = .ofAddress a) s.faults s.device := by
  refine (checked_require _ _).bind fun address haddress => ?_
  by_cases hzero : address = .zero
  · subst hzero
    rw [if_pos haddress, if_pos (Address.isZero_iff.2 rfl)]
    exact (checked_require _ _).bind_ok fun source hsource =>
      ⟨_, rfl, source, .inr ⟨haddress, hsource⟩, rfl⟩
  · have hne : s.peerAddress? ≠ some Address.zero.octets := by
      rw [haddress, ne_eq, Option.some.injEq]
      intro hoctets
      cases address
      exact hzero (by cases hoctets; rfl)
    rw [if_neg hne, if_neg (mt Address.isZero_iff.1 hzero)]
    exact .passed _ ⟨address, .inl ⟨haddress, hzero⟩, rfl⟩

/-! ### Groups -/

/-- The faults of a group start. An empty name of an interface is none. -/
def GroupStart.faults (s : GroupStart) : List Malformed :=
  missingFaults .groupInterface (s.interface?.filter (· ≠ "")) ++
    (missingFaults .ssid s.ssid? ++ addressFaults .ownerAddress s.ownerAddress?)

/-- The octets of a client's addresses are the bytes of its words, the least significant first. -/
structure ClientWords.Spell (w : ClientWords) (addresses : ClientAddresses) : Prop where
  client : addresses.client.octets = Bytes.littleEndian 4 w.client.toNat
  owner : addresses.owner.octets = Bytes.littleEndian 4 w.owner.toNat
  mask : addresses.mask.octets = Bytes.littleEndian 4 w.mask.toNat

/-- A group has what the report of its start says. -/
structure Starts (s : FullGroupStart) (g : Group) : Prop where
  interface : ∃ name, name ≠ "" ∧ s.interface? = some name ∧ g.interface? = some name
  clients : g.clients = []
  networkId : g.networkId = if s.isPersistent then -2 else -1
  owner : ∃ a, s.ownerAddress? = some a.octets ∧ g.owner = .ofAddress a
  passphrase : g.passphrase? = s.passphrase?
  isSome_interfaceAddress : g.interfaceAddress?.isSome ↔ HasLength 6 s.interfaceAddress?
  interfaceAddress : ∀ a, g.interfaceAddress? = some a → s.interfaceAddress? = some a.octets
  isSome_clientAddresses : g.clientAddresses?.isSome ↔
    s.hasClientWords = true ∧ s.isOwner = false ∧ s.clientWords?.isSome
  clientAddresses : ∀ addresses, g.clientAddresses? = some addresses →
    ∃ w, s.clientWords? = some w ∧ w.Spell addresses

theorem FullGroupStart.isSome_clientAddresses? {s : FullGroupStart} :
    s.clientAddresses?.isSome ↔
      s.hasClientWords = true ∧ s.isOwner = false ∧ s.clientWords?.isSome := by
  rw [clientAddresses?, ← and_assoc, ← Bool.not_eq_true]
  by_cases h : s.hasClientWords = true ∧ ¬ s.isOwner = true
  · rw [if_pos h, Option.isSome_map]
    exact ⟨fun hwords => ⟨h, hwords⟩, And.right⟩
  · rw [if_neg h]
    exact iff_of_false nofun fun hwords => h hwords.1

theorem FullGroupStart.spell_of_clientAddresses? {s : FullGroupStart} {addresses : ClientAddresses}
    (h : s.clientAddresses? = some addresses) :
    ∃ w, s.clientWords? = some w ∧ w.Spell addresses := by
  rw [clientAddresses?] at h
  split at h
  · obtain ⟨w, hw, rfl⟩ := Option.map_eq_some_iff.1 h
    exact ⟨w, hw, Ipv4.octets_ofWord _, Ipv4.octets_ofWord _, Ipv4.octets_ofWord _⟩
  · cases h

theorem Address.bind_ofBytes_eq_some_iff {buffer? : Option Bytes} {a : Address} :
    (buffer?.bind fun bs => (Address.ofBytes .address bs).toOption) = some a ↔
      buffer? = some a.octets := by
  rw [Option.bind_eq_some_iff]
  constructor
  · rintro ⟨bs, rfl, ha⟩
    rw [Address.ofBytes_eq_ok_iff.1 (Family.toOption_eq_some_iff.1 ha)]
  · rintro rfl
    exact ⟨_, rfl, Family.toOption_eq_some_iff.2 (Address.ofBytes_eq_ok_iff.2 rfl)⟩

theorem FullGroupStart.checked_group (s : FullGroupStart) :
    Checked (Starts s) s.toGroupStart.faults s.group := by
  unfold GroupStart.faults FullGroupStart.group
  refine (checked_requireField _ _).bind fun interface hinterface =>
    (checked_requireField _ _).bind fun ssid hssid =>
      (checked_require _ _).bind_ok fun owner howner => ⟨_, rfl, ?_⟩
  obtain ⟨hsupplied, hne⟩ := Option.filter_eq_some_iff.1 hinterface
  exact
    { interface := ⟨interface, of_decide_eq_true hne, hsupplied, rfl⟩
      clients := rfl
      networkId := rfl
      owner := ⟨owner, howner, rfl⟩
      passphrase := rfl
      isSome_interfaceAddress := by
        rw [hasLength_six_iff, Option.isSome_iff_exists]
        exact exists_congr fun a => Address.bind_ofBytes_eq_some_iff
      interfaceAddress := fun a => Address.bind_ofBytes_eq_some_iff.1
      isSome_clientAddresses := isSome_clientAddresses?
      clientAddresses := fun addresses => spell_of_clientAddresses? }

/-- The faults of an invitation. -/
def Invitation.faults (i : Invitation) : List Malformed :=
  addressFaults .sourceAddress i.sourceAddress? ++ addressFaults .ownerAddress i.ownerAddress?

/-- A group is the one that an invitation is to. -/
structure Invites (i : Invitation) (g : Group) : Prop where
  owner : ∃ a, i.ownerAddress? = some a.octets ∧ g.owner = .ofAddress a
  clients : ∃ a, i.sourceAddress? = some a.octets ∧ g.clients = [.ofAddress a]
  interfaceAddress : g.interfaceAddress? = none

theorem Invitation.checked_group (i : Invitation) : Checked (Invites i) i.faults i.group := by
  unfold Invitation.faults Invitation.group
  exact (checked_require _ _).bind fun client hclient => (checked_require _ _).bind_ok
    fun owner howner => ⟨_, rfl, ⟨owner, howner, rfl⟩, ⟨client, hclient, rfl⟩, rfl⟩

/-! ### Provisioning -/

/-- One of the three setup methods is offered: push button, keypad or display. -/
def OffersSetup (methods : UInt16) : Prop :=
  methods &&& 0x80 ≠ 0 ∨ methods &&& 0x100 ≠ 0 ∨ methods &&& 0x8 ≠ 0

instance (methods : UInt16) : Decidable (OffersSetup methods) := by
  unfold OffersSetup
  infer_instance

/-- The fault of the status of a provisioning: five codes are known. -/
def provisionStatusFaults (status : UInt8) : List Rejection :=
  if 4 < status.toNat then [.unmapped .provision (Int32.ofNat status.toNat)] else []

/-- The fault of the methods that a peer offers. -/
def methodsFaults (methods : UInt16) : List Malformed :=
  if OffersSetup methods then [] else [.methods methods]

/-- The faults of a provision report. The methods matter after a success. -/
def ProvisionReport.faults (r : ProvisionReport) : List Rejection :=
  (addressFaults .peerAddress r.peerAddress?).map (.dropped "onProvisionDiscoveryCompleted") ++
    (provisionStatusFaults r.status ++
      if r.status = 0 then (methodsFaults r.methods).map (.dropped "onProvisionDiscoveryCompleted")
      else [])

theorem checked_ofStatus (status : UInt8) :
    Checked (fun failure? => failure? = none ↔ status = 0) (provisionStatusFaults status)
      (ProvisionFailure.ofStatus status) := by
  have hzero : status = 0 ↔ status.toNat = 0 := UInt8.toNat_inj.symm
  rw [provisionStatusFaults, ProvisionFailure.ofStatus, hzero]
  -- the table is one of numbers, and the status is no more than its number here
  generalize status.toNat = n
  match n with
  | 0 => exact .passed _ (iff_of_true rfl rfl)
  | 1 | 2 | 3 | 4 => exact .passed _ (iff_of_false nofun nofun)
  | n + 5 =>
    rw [if_pos (by omega)]
    exact .failed _ _

theorem checked_ofMethods (methods : UInt16) (isRequest : Bool) (pin : String) :
    Checked (fun _ => True) (methodsFaults methods)
      (Outcome.ofMethods methods isRequest pin) := by
  rw [methodsFaults, Outcome.ofMethods, Outcome.pushButtonBit, Outcome.keypadBit,
    Outcome.displayBit]
  by_cases hpush : methods &&& 0x80 ≠ 0
  · rw [if_pos hpush, if_pos (.inl hpush)]
    exact .passed _ trivial
  by_cases hkeypad : methods &&& 0x100 ≠ 0
  · rw [if_neg hpush, if_pos hkeypad, if_pos (.inr (.inl hkeypad))]
    exact .passed _ trivial
  by_cases hdisplay : methods &&& 0x8 ≠ 0
  · rw [if_neg hpush, if_neg hkeypad, if_pos hdisplay, if_pos (.inr (.inr hdisplay))]
    exact .passed _ trivial
  · have hnone : ¬ OffersSetup methods := by
      rintro (h | h | h)
      · exact hpush h
      · exact hkeypad h
      · exact hdisplay h
    rw [if_neg hpush, if_neg hkeypad, if_neg hdisplay, if_neg hnone]
    exact .failed _ _

theorem FullProvisionReport.checked_provision (r : FullProvisionReport) :
    Checked (fun p => ∃ a, r.peerAddress? = some a.octets ∧ p.device = .ofAddress a)
      r.toProvisionReport.faults r.provision := by
  unfold ProvisionReport.faults FullProvisionReport.provision
  refine ((checked_require _ _).dropping _).bind fun address haddress =>
    (checked_ofStatus _).bind fun failure? hfailure => ?_
  cases failure? with
  | some reason =>
    rw [if_neg fun h => nomatch hfailure.2 h]
    exact .passed _ ⟨address, haddress, rfl⟩
  | none =>
    rw [if_pos (hfailure.1 rfl)]
    exact ((checked_ofMethods _ _ _).dropping _).bind_ok fun outcome _ =>
      ⟨_, rfl, address, haddress, rfl⟩

/-! ### Notifications -/

namespace Notification

/-- The sighting that a notification reports, in full. -/
def sighting? : Notification → Option FullSighting
  | .deviceFound s => some s.full
  | .deviceFoundWithElements s | .deviceFoundWithParams s => some s
  | _ => none

/-- The start of a group that a notification reports, in full. -/
def groupStart? : Notification → Option FullGroupStart
  | .groupStarted s => some s.full
  | .groupStartedWithParams s => some s
  | _ => none

/-- The provisioning that a notification reports, in full. -/
def provisionReport? : Notification → Option FullProvisionReport
  | .provisionCompleted r => some r.full
  | .provisionCompletedWithParams r => some r
  | _ => none

/-- **The faults of a notification**, in the order in which they are looked for. -/
def faults : Notification → List Rejection
  | .deviceFound s => s.faults.map (.dropped "onDeviceFound")
  | .deviceFoundWithElements s | .deviceFoundWithParams s =>
    s.toSighting.faults.map (.dropped "onDeviceFound")
  | .deviceLost peerAddress? =>
    (addressFaults .peerAddress peerAddress?).map (.dropped "onDeviceLost")
  | .negotiationRequest sourceAddress? _ =>
    (addressFaults .sourceAddress sourceAddress?).map (.dropped "onGoNegotiationRequest")
  | .negotiationCompleted status | .invitationResult _ status => groupStatusFaults status
  | .groupStarted s => s.faults.map (.dropped "onGroupStarted")
  | .groupStartedWithParams s => s.toGroupStart.faults.map (.dropped "onGroupStarted")
  | .provisionCompleted r => r.faults
  | .provisionCompletedWithParams r => r.toProvisionReport.faults
  | .invitationReceived i => i.faults.map (.dropped "onInvitationReceived")
  | .stationAuthorized s => s.faults.map (.dropped "onStaAuthorized")
  | .stationDeauthorized s => s.faults.map (.dropped "onStaDeauthorized")
  | .serviceResponse sourceAddress? _ _ =>
    (addressFaults .sourceAddress sourceAddress?).map (.dropped "onServiceDiscoveryResponse")
  | .findStopped | .formationSuccess | .formationFailure _ | .groupRemoved .. => []

end Notification

/-- **What an event reports of a notification.** -/
inductive Reports : Notification → Event → Prop
  | deviceFound {c : Notification} {s : FullSighting} {p : Peer} (hc : c.sighting? = some s)
      (h : Shows s p) : Reports c (.deviceFound p)
  | deviceLost (a : Address) : Reports (.deviceLost (some a.octets)) (.deviceLost (.ofAddress a))
  | findStopped : Reports .findStopped .findStopped
  | negotiationRequest (a : Address) (passwordId : Int32) (setup : Setup) :
      Reports (.negotiationRequest (some a.octets) passwordId) (.negotiationRequest ⟨a, setup⟩)
  | negotiationSuccess (code : Int32) : Reports (.negotiationCompleted code) .negotiationSuccess
  | negotiationFailure (code : Int32) (status : GroupStatus) :
      Reports (.negotiationCompleted code) (.negotiationFailure status)
  | groupStarted {c : Notification} {s : FullGroupStart} {g : Group} (hc : c.groupStart? = some s)
      (h : Starts s g) : Reports c (.groupStarted g)
  | formationSuccess : Reports .formationSuccess .formationSuccess
  | formationFailure (reason : String) :
      Reports (.formationFailure reason) (.formationFailure reason)
  | groupRemoved (interface : String) (isOwner : Bool) :
      Reports (.groupRemoved interface isOwner) (.groupRemoved ⟨interface, isOwner⟩)
  | provision {c : Notification} {r : FullProvisionReport} {p : Provision} (a : Address)
      (hc : c.provisionReport? = some r) (ha : r.peerAddress? = some a.octets)
      (hp : p.device = .ofAddress a) : Reports c (.provision p)
  | invitationReceived {i : Invitation} {g : Group} (h : Invites i g) :
      Reports (.invitationReceived i) (.invitationReceived g)
  | invitationResult (networkAddress? : Option Bytes) (code : Int32) (status : GroupStatus) :
      Reports (.invitationResult networkAddress? code) (.invitationResult status)
  | stationAuthorized {s : Station} {a : Address} (h : GoesBy s a) :
      Reports (.stationAuthorized s) (.stationAuthorized (.ofAddress a))
  | stationDeauthorized {s : Station} {a : Address} (h : GoesBy s a) :
      Reports (.stationDeauthorized s) (.stationDeauthorized (.ofAddress a))
  | serviceResponses (a : Address) (updateIndicator : UInt16) (records? : Option Bytes) :
      Reports (.serviceResponse (some a.octets) updateIndicator records?)
        (.serviceResponses (Service.Response.scan a (records?.getD [])).items)

theorem FullSighting.checked_decode {c : Notification} {s : FullSighting}
    (hc : c.sighting? = some s) :
    Checked (fun decoded => Reports c decoded.event)
      (s.toSighting.faults.map (.dropped "onDeviceFound")) s.decode :=
  (s.checked_device.dropping _).bind_ok fun _ h => ⟨_, rfl, .deviceFound hc h⟩

theorem FullGroupStart.checked_decode {c : Notification} {s : FullGroupStart}
    (hc : c.groupStart? = some s) :
    Checked (fun decoded => Reports c decoded.event)
      (s.toGroupStart.faults.map (.dropped "onGroupStarted")) s.decode :=
  (s.checked_group.dropping _).bind_ok fun _ h => ⟨_, rfl, .groupStarted hc h⟩

theorem FullProvisionReport.checked_decode {c : Notification} {r : FullProvisionReport}
    (hc : c.provisionReport? = some r) :
    Checked (fun decoded => Reports c decoded.event) r.toProvisionReport.faults r.decode :=
  r.checked_provision.bind_ok fun _ ⟨a, ha, hp⟩ => ⟨_, rfl, .provision a hc ha hp⟩

/-- **Decoding a notification** fails with its first fault, and without any comes to an event that
reports it. -/
theorem Notification.checked_decode (c : Notification) :
    Checked (fun decoded => Reports c decoded.event) c.faults c.decode := by
  cases c with
  | deviceFound s => exact s.full.checked_decode rfl
  | deviceFoundWithElements s => exact s.checked_decode rfl
  | deviceFoundWithParams s => exact s.checked_decode rfl
  | deviceLost peerAddress? =>
    exact ((checked_require _ _).dropping _).bind_ok fun a ha => ⟨_, rfl, ha ▸ .deviceLost a⟩
  | findStopped => exact .passed _ .findStopped
  | negotiationRequest sourceAddress? passwordId =>
    exact ((checked_require _ _).dropping _).bind_ok fun a ha =>
      ⟨_, rfl, ha ▸ .negotiationRequest a passwordId _⟩
  | negotiationCompleted code =>
    refine (checked_groupStatus code).bind_ok fun status _ => ⟨_, rfl, ?_⟩
    by_cases h : status = .success
    · rw [if_pos h]
      exact .negotiationSuccess code
    · rw [if_neg h]
      exact .negotiationFailure code status
  | groupStarted s => exact s.full.checked_decode rfl
  | groupStartedWithParams s => exact s.checked_decode rfl
  | formationSuccess => exact .passed _ .formationSuccess
  | formationFailure reason => exact .passed _ (.formationFailure reason)
  | groupRemoved interface isOwner => exact .passed _ (.groupRemoved interface isOwner)
  | provisionCompleted r => exact r.full.checked_decode rfl
  | provisionCompletedWithParams r => exact r.checked_decode rfl
  | invitationReceived i =>
    exact (i.checked_group.dropping _).bind_ok fun g h => ⟨_, rfl, .invitationReceived h⟩
  | invitationResult networkAddress? code =>
    exact (checked_groupStatus code).bind_ok fun status _ =>
      ⟨_, rfl, .invitationResult networkAddress? code status⟩
  | stationAuthorized s =>
    exact (s.checked_device.dropping _).bind_ok fun p ⟨a, ha, hp⟩ =>
      ⟨_, rfl, hp ▸ .stationAuthorized ha⟩
  | stationDeauthorized s =>
    exact (s.checked_device.dropping _).bind_ok fun p ⟨a, ha, hp⟩ =>
      ⟨_, rfl, hp ▸ .stationDeauthorized ha⟩
  | serviceResponse sourceAddress? updateIndicator records? =>
    exact ((checked_require _ _).dropping _).bind_ok fun a ha =>
      ⟨_, rfl, ha ▸ .serviceResponses a updateIndicator records?⟩

/-- The event of a notification is the one that decoding yields. -/
theorem Notification.event_eq_ok_iff {c : Notification} {e : Event} :
    c.event = .ok e ↔ ∃ decoded, c.decode = .ok decoded ∧ decoded.event = e := by
  rw [event]
  cases c.decode with
  | ok decoded => simp only [Except.map, Except.ok.injEq, exists_eq_left']
  | error rejection => simp only [Except.map, reduceCtorEq, false_and, exists_false]

theorem Notification.event_eq_error_iff {c : Notification} {rejection : Rejection} :
    c.event = .error rejection ↔ c.decode = .error rejection := by
  rw [event]
  cases c.decode with
  | ok decoded => simp only [Except.map, reduceCtorEq]
  | error rejection' => simp only [Except.map, Except.error.injEq]

theorem Notification.checked_event (c : Notification) : Checked (Reports c) c.faults c.event := by
  have hevent : c.event = c.decode >>= fun decoded => .ok decoded.event := by
    rw [Notification.event]
    cases c.decode <;> rfl
  rw [hevent]
  exact c.checked_decode.bind_ok fun decoded h => ⟨_, rfl, h⟩

end WifiDirect
