import WifiDirect.Event
import WifiDirect.Notification

/-!
# Decoding notifications

The event that a notification means, or why it means none. Where more than one thing is wrong with a
notification, the checks come in a fixed order: addresses first, then what depends on them. Decoding
keeps nothing from one notification to the next.
-/

namespace WifiDirect

/-- An event and the notes that its elements left. -/
structure Decoded where
  event : Event
  notes : List LogRecord
  deriving DecidableEq, Repr

/-- An event without notes. -/
def Decoded.ofEvent (event : Event) : Decoded := ⟨event, []⟩

/-- A malformed field drops the notification, which `callback` names. -/
def dropping {α : Type} (callback : String) : Except Malformed α → Except Rejection α
  | .ok a => .ok a
  | .error reason => .error (.dropped callback reason)

/-- The content of a field that has to be supplied. -/
def requireField {α : Type} (field : Field) : Option α → Except Malformed α
  | none => .error (.missing field)
  | some a => .ok a

/-! ### Older forms as the full one -/

/-- A sighting in full. -/
def Sighting.full (s : Sighting) : FullSighting :=
  { s with displayRelease2? := none, vendorElements? := none }

/-- A group start in full. -/
def GroupStart.full (s : GroupStart) : FullGroupStart :=
  { s with interfaceAddress? := none, hasClientWords := false, clientWords? := none }

/-- A provision report in full. -/
def ProvisionReport.full (r : ProvisionReport) : FullProvisionReport :=
  { r with groupInterface? := none }

/-! ### Devices and groups -/

/-- What scanning the vendor elements gives, if there are any. -/
def FullSighting.scanElements (s : FullSighting) :
    Scan InformationElement InformationElement.NotVendor :=
  match s.vendorElements? with
  | none => ⟨[], []⟩
  | some bs => InformationElement.scan bs

/-- The device that a sighting shows, and the notes on its vendor elements. -/
def FullSighting.device (s : FullSighting) : Except Malformed (Peer × List LogRecord) := do
  let _ ← Address.require .sourceAddress s.sourceAddress?
  let address ← Address.require .peerAddress s.peerAddress?
  let typeBytes ← requireField .deviceType s.deviceType?
  let name ← requireField .deviceName s.deviceName?
  let deviceType ← deviceTypeText typeBytes
  let elements := s.scanElements
  let peer : Peer :=
    { address, name, deviceType
      deviceCapability := s.deviceCapability
      groupCapability := s.groupCapability
      methods := s.methods
      availability := .available
      display? := DisplayInfo.ofBytes? s.display? s.displayRelease2?
      vendorElements := elements.items }
  return (peer, elements.notes.map (Note.record InformationElement.NotVendor.record))

/-- The addresses of a client. Only a client is handed addresses, and only where they are said to be
there. -/
def FullGroupStart.clientAddresses? (s : FullGroupStart) : Option ClientAddresses :=
  if s.hasClientWords ∧ ¬ s.isOwner then
    s.clientWords?.map fun w => ⟨.ofWord w.client, .ofWord w.owner, .ofWord w.mask⟩
  else none

/-- The group that was started. -/
def FullGroupStart.group (s : FullGroupStart) : Except Malformed Group := do
  let interface ← requireField .groupInterface (s.interface?.filter (· ≠ ""))
  let ssid ← requireField .ssid s.ssid?
  let owner ← Address.require .ownerAddress s.ownerAddress?
  return {
    interface? := some interface
    isOwner := s.isOwner
    networkName? := some (networkNameText ssid)
    networkId := if s.isPersistent then Group.persistentId else Group.temporaryId
    owner := Peer.ofAddress owner
    clients := []
    passphrase? := s.passphrase?
    frequency := s.frequency
    interfaceAddress? := s.interfaceAddress?.bind fun bs => (Address.ofBytes .address bs).toOption
    clientAddresses? := s.clientAddresses? }

/-- The device that a station is. One whose own address is unknown goes by the address that it sends
from. -/
def Station.device (s : Station) : Except Malformed Peer := do
  let address ← Address.require .peerAddress s.peerAddress?
  if address.isZero then
    return Peer.ofAddress (← Address.require .sourceAddress s.sourceAddress?)
  else
    return Peer.ofAddress address

/-- What a provisioning came to. The address is checked first, then the status, then the methods. -/
def FullProvisionReport.provision (r : FullProvisionReport) : Except Rejection Provision := do
  let callback := "onProvisionDiscoveryCompleted"
  let address ← dropping callback (Address.require .peerAddress r.peerAddress?)
  let outcome ← match ← ProvisionFailure.ofStatus r.status with
    | some reason => pure (Outcome.failure reason)
    | none => dropping callback (Outcome.ofMethods r.methods r.isRequest (r.pin?.getD ""))
  return { device := Peer.ofAddress address, outcome, groupInterface? := r.groupInterface? }

/-- The group that an invitation is to: the inviting peer is its only client. -/
def Invitation.group (i : Invitation) : Except Malformed Group := do
  let client ← Address.require .sourceAddress i.sourceAddress?
  let owner ← Address.require .ownerAddress i.ownerAddress?
  return {
    interface? := none
    isOwner := false
    networkName? := none
    networkId := i.networkId
    owner := Peer.ofAddress owner
    clients := [Peer.ofAddress client]
    passphrase? := none
    frequency := i.frequency
    interfaceAddress? := none
    clientAddresses? := none }

/-! ### Notifications -/

/-- A sighting as an event. -/
def FullSighting.decode (s : FullSighting) : Except Rejection Decoded := do
  let (device, notes) ← dropping "onDeviceFound" s.device
  return ⟨.deviceFound device, notes⟩

/-- A group start as an event. -/
def FullGroupStart.decode (s : FullGroupStart) : Except Rejection Decoded := do
  let group ← dropping "onGroupStarted" s.group
  return .ofEvent (.groupStarted group)

/-- A provision report as an event. -/
def FullProvisionReport.decode (r : FullProvisionReport) : Except Rejection Decoded := do
  let provision ← r.provision
  return .ofEvent (.provision provision)

/-- **The event that a notification means.** -/
def Notification.decode : Notification → Except Rejection Decoded
  | .deviceFound s => s.full.decode
  | .deviceFoundWithElements s => s.decode
  | .deviceFoundWithParams s => s.decode
  | .deviceLost peerAddress? => do
    let address ← dropping "onDeviceLost" (Address.require .peerAddress peerAddress?)
    return .ofEvent (.deviceLost (Peer.ofAddress address))
  | .findStopped => .ok (.ofEvent .findStopped)
  | .negotiationRequest sourceAddress? passwordId => do
    let device ←
      dropping "onGoNegotiationRequest" (Address.require .sourceAddress sourceAddress?)
    return .ofEvent (.negotiationRequest ⟨device, Setup.ofPasswordId passwordId⟩)
  | .negotiationCompleted status => do
    let status ← GroupStatus.ofCode status
    return .ofEvent (if status = .success then .negotiationSuccess else .negotiationFailure status)
  | .groupStarted s => s.full.decode
  | .groupStartedWithParams s => s.decode
  | .formationSuccess => .ok (.ofEvent .formationSuccess)
  | .formationFailure reason => .ok (.ofEvent (.formationFailure reason))
  | .groupRemoved interface isOwner => .ok (.ofEvent (.groupRemoved ⟨interface, isOwner⟩))
  | .provisionCompleted r => r.full.decode
  | .provisionCompletedWithParams r => r.decode
  | .invitationReceived i => do
    let group ← dropping "onInvitationReceived" i.group
    return .ofEvent (.invitationReceived group)
  | .invitationResult _ status => do
    let status ← GroupStatus.ofCode status
    return .ofEvent (.invitationResult status)
  | .stationAuthorized s => do
    let device ← dropping "onStaAuthorized" s.device
    return .ofEvent (.stationAuthorized device)
  | .stationDeauthorized s => do
    let device ← dropping "onStaDeauthorized" s.device
    return .ofEvent (.stationDeauthorized device)
  | .serviceResponse sourceAddress? _ records? => do
    let device ←
      dropping "onServiceDiscoveryResponse" (Address.require .sourceAddress sourceAddress?)
    let responses := Service.Response.scan device (records?.getD [])
    return ⟨.serviceResponses responses.items,
      responses.notes.map (Note.record Service.Skip.record)⟩

/-- The event of a notification, without notes. -/
def Notification.event (n : Notification) : Except Rejection Event :=
  n.decode.map Decoded.event

end WifiDirect
