import WifiDirect.Layout.Record
import WifiDirect.Layout.Choice

/-!
# Notifications

What the supplicant reports, field by field as it hands it over: buffers may be missing and numbers
may mean nothing. Some reports have grown over time, and their older forms are still in use.
-/

namespace WifiDirect

/-! ### Reports -/

/-- A device that was found. -/
structure Sighting where
  sourceAddress? : Option Bytes
  peerAddress? : Option Bytes
  deviceType? : Option Bytes
  deviceName? : Option String
  methods : UInt16
  deviceCapability : UInt8
  groupCapability : Int32
  display? : Option Bytes
  deriving DecidableEq, Repr

/-- A device that was found, with what later forms add. -/
structure FullSighting extends Sighting where
  displayRelease2? : Option Bytes
  vendorElements? : Option Bytes
  deriving DecidableEq, Repr

/-- The addresses of a client as words. -/
structure ClientWords where
  client : UInt32
  owner : UInt32
  mask : UInt32
  deriving DecidableEq, Repr

/-- A group that was started. -/
structure GroupStart where
  interface? : Option String
  isOwner : Bool
  ssid? : Option Bytes
  frequency : Int32
  passphrase? : Option String
  ownerAddress? : Option Bytes
  isPersistent : Bool
  deriving DecidableEq, Repr

/-- A group that was started, with what the later form adds. -/
structure FullGroupStart extends GroupStart where
  interfaceAddress? : Option Bytes
  hasClientWords : Bool
  clientWords? : Option ClientWords
  deriving DecidableEq, Repr

/-- A provisioning that was completed. -/
structure ProvisionReport where
  peerAddress? : Option Bytes
  isRequest : Bool
  status : UInt8
  methods : UInt16
  pin? : Option String
  deriving DecidableEq, Repr

/-- A provisioning that was completed, with what the later form adds. -/
structure FullProvisionReport extends ProvisionReport where
  groupInterface? : Option String
  deriving DecidableEq, Repr

/-- An invitation by a peer. -/
structure Invitation where
  sourceAddress? : Option Bytes
  ownerAddress? : Option Bytes
  networkAddress? : Option Bytes
  networkId : Int32
  frequency : Int32
  deriving DecidableEq, Repr

/-- A station that joins or leaves. -/
structure Station where
  sourceAddress? : Option Bytes
  peerAddress? : Option Bytes
  deriving DecidableEq, Repr

/-- A notification of the supplicant. -/
inductive Notification
  | deviceFound (sighting : Sighting)
  | deviceFoundWithElements (sighting : FullSighting)
  | deviceFoundWithParams (sighting : FullSighting)
  | deviceLost (peerAddress? : Option Bytes)
  | findStopped
  | negotiationRequest (sourceAddress? : Option Bytes) (passwordId : Int32)
  | negotiationCompleted (status : Int32)
  | groupStarted (start : GroupStart)
  | groupStartedWithParams (start : FullGroupStart)
  | formationSuccess
  | formationFailure (reason : String)
  | groupRemoved (interface : String) (isOwner : Bool)
  | provisionCompleted (report : ProvisionReport)
  | provisionCompletedWithParams (report : FullProvisionReport)
  | invitationReceived (invitation : Invitation)
  | invitationResult (networkAddress? : Option Bytes) (status : Int32)
  | stationAuthorized (station : Station)
  | stationDeauthorized (station : Station)
  | serviceResponse (sourceAddress? : Option Bytes) (updateIndicator : UInt16)
      (records? : Option Bytes)
  deriving DecidableEq, Repr

namespace Notification

/-- The name of a notification. -/
def name : Notification → String
  | .deviceFound _ => "onDeviceFound"
  | .deviceFoundWithElements _ => "onDeviceFoundWithVendorElements"
  | .deviceFoundWithParams _ => "onDeviceFoundWithParams"
  | .deviceLost _ => "onDeviceLost"
  | .findStopped => "onFindStopped"
  | .negotiationRequest .. => "onGoNegotiationRequest"
  | .negotiationCompleted _ => "onGoNegotiationCompleted"
  | .groupStarted _ => "onGroupStarted"
  | .groupStartedWithParams _ => "onGroupStartedWithParams"
  | .formationSuccess => "onGroupFormationSuccess"
  | .formationFailure _ => "onGroupFormationFailure"
  | .groupRemoved .. => "onGroupRemoved"
  | .provisionCompleted _ => "onProvisionDiscoveryCompleted"
  | .provisionCompletedWithParams _ => "onProvisionDiscoveryCompletedEvent"
  | .invitationReceived _ => "onInvitationReceived"
  | .invitationResult .. => "onInvitationResult"
  | .stationAuthorized _ => "onStaAuthorized"
  | .stationDeauthorized _ => "onStaDeauthorized"
  | .serviceResponse .. => "onServiceDiscoveryResponse"

/-- The format of recorded notifications, numbered anew when it changes. -/
def formatVersion : UInt8 := 1

end Notification

/-! ### Layouts

A report that carries its fields in a structure of its own may leave any of them out. -/

/-- A buffer that may be missing. -/
def Layout.buffer : Layout (Option Bytes) := .optional .bytes

/-- The layout of a sighting. -/
def Sighting.layout : Layout Sighting :=
  .record
    (.cons "src_address" .buffer <| .cons "p2p_device_address" .buffer <|
      .cons "primary_device_type" .buffer <| .cons "device_name" (.optional .text) <|
      .cons "config_methods" .u16 <| .cons "device_capabilities" .u8 <|
      .cons "group_capabilities" .i32 <| .cons "wfd_device_info" .buffer .nil)
    .exact
    (fun s => (s.sourceAddress?, s.peerAddress?, s.deviceType?, s.deviceName?, s.methods,
      s.deviceCapability, s.groupCapability, s.display?, ()))
    (fun (sourceAddress?, peerAddress?, deviceType?, deviceName?, methods, deviceCapability,
        groupCapability, display?, ()) =>
      { sourceAddress?, peerAddress?, deviceType?, deviceName?, methods, deviceCapability,
        groupCapability, display? })

/-- The layout of a full sighting, given those of the three fields that may be left out. -/
def FullSighting.layoutWith (arity : Arity) (methods : Layout UInt16)
    (deviceCapability : Layout UInt8) (groupCapability : Layout Int32) : Layout FullSighting :=
  .record
    (.cons "src_address" .buffer <| .cons "p2p_device_address" .buffer <|
      .cons "primary_device_type" .buffer <| .cons "device_name" (.optional .text) <|
      .cons "config_methods" methods <| .cons "device_capabilities" deviceCapability <|
      .cons "group_capabilities" groupCapability <| .cons "wfd_device_info" .buffer <|
      .cons "wfd_r2_device_info" .buffer <| .cons "vendor_elem_bytes" .buffer .nil)
    arity
    (fun s => (s.sourceAddress?, s.peerAddress?, s.deviceType?, s.deviceName?, s.methods,
      s.deviceCapability, s.groupCapability, s.display?, s.displayRelease2?, s.vendorElements?, ()))
    (fun (sourceAddress?, peerAddress?, deviceType?, deviceName?, methods, deviceCapability,
        groupCapability, display?, displayRelease2?, vendorElements?, ()) =>
      { sourceAddress?, peerAddress?, deviceType?, deviceName?, methods, deviceCapability,
        groupCapability, display?, displayRelease2?, vendorElements? })

/-- The layout of a full sighting whose fields stand in the notification. -/
def FullSighting.layout : Layout FullSighting :=
  layoutWith .exact .u16 .u8 .i32

/-- The layout of a full sighting whose fields stand in a structure of their own. -/
def FullSighting.paramsLayout : Layout FullSighting :=
  layoutWith .atMost (.withDefault .u16 0) (.withDefault .u8 0) (.withDefault .i32 0)

/-- The layout of a client's words. -/
def ClientWords.layout : Layout ClientWords :=
  .record
    (.cons "ip_address_client" .u32 <| .cons "ip_address_go" .u32 <|
      .cons "ip_address_mask" .u32 .nil)
    .exact
    (fun w => (w.client, w.owner, w.mask, ()))
    (fun (client, owner, mask, ()) => { client, owner, mask })

/-- The layout of a group start. -/
def GroupStart.layout : Layout GroupStart :=
  .record
    (.cons "group_interface_name" (.optional .text) <| .cons "is_group_owner" .bool <|
      .cons "ssid" .buffer <| .cons "frequency_mhz" .i32 <| .cons "passphrase" (.optional .text) <|
      .cons "go_device_address" .buffer <| .cons "is_persistent" .bool .nil)
    .exact
    (fun s => (s.interface?, s.isOwner, s.ssid?, s.frequency, s.passphrase?, s.ownerAddress?,
      s.isPersistent, ()))
    (fun (interface?, isOwner, ssid?, frequency, passphrase?, ownerAddress?, isPersistent, ()) =>
      { interface?, isOwner, ssid?, frequency, passphrase?, ownerAddress?, isPersistent })

/-- The layout of a full group start. -/
def FullGroupStart.layout : Layout FullGroupStart :=
  .record
    (.cons "group_interface_name" (.optional .text) <|
      .cons "is_group_owner" (.withDefault .bool false) <| .cons "ssid" .buffer <|
      .cons "frequency_mhz" (.withDefault .i32 0) <| .cons "passphrase" (.optional .text) <|
      .cons "go_device_address" .buffer <| .cons "go_interface_address" .buffer <|
      .cons "is_persistent" (.withDefault .bool false) <|
      .cons "is_client_ip_info_present" (.withDefault .bool false) <|
      .cons "client_ip_info" (.optional ClientWords.layout) .nil)
    .atMost
    (fun s => (s.interface?, s.isOwner, s.ssid?, s.frequency, s.passphrase?, s.ownerAddress?,
      s.interfaceAddress?, s.isPersistent, s.hasClientWords, s.clientWords?, ()))
    (fun (interface?, isOwner, ssid?, frequency, passphrase?, ownerAddress?, interfaceAddress?,
        isPersistent, hasClientWords, clientWords?, ()) =>
      { interface?, isOwner, ssid?, frequency, passphrase?, ownerAddress?, interfaceAddress?,
        isPersistent, hasClientWords, clientWords? })

/-- The layout of a provision report. -/
def ProvisionReport.layout : Layout ProvisionReport :=
  .record
    (.cons "p2p_device_address" .buffer <| .cons "is_request" .bool <| .cons "status" .u8 <|
      .cons "config_methods" .u16 <| .cons "generated_pin" (.optional .text) .nil)
    .exact
    (fun r => (r.peerAddress?, r.isRequest, r.status, r.methods, r.pin?, ()))
    (fun (peerAddress?, isRequest, status, methods, pin?, ()) =>
      { peerAddress?, isRequest, status, methods, pin? })

/-- The layout of a full provision report. -/
def FullProvisionReport.layout : Layout FullProvisionReport :=
  .record
    (.cons "p2p_device_address" .buffer <| .cons "is_request" (.withDefault .bool false) <|
      .cons "status" (.withDefault .u8 0) <| .cons "config_methods" (.withDefault .u16 0) <|
      .cons "generated_pin" (.optional .text) <|
      .cons "group_interface_name" (.optional .text) .nil)
    .atMost
    (fun r => (r.peerAddress?, r.isRequest, r.status, r.methods, r.pin?, r.groupInterface?, ()))
    (fun (peerAddress?, isRequest, status, methods, pin?, groupInterface?, ()) =>
      { peerAddress?, isRequest, status, methods, pin?, groupInterface? })

/-- The layout of an invitation. -/
def Invitation.layout : Layout Invitation :=
  .record
    (.cons "src_address" .buffer <| .cons "go_device_address" .buffer <| .cons "bssid" .buffer <|
      .cons "persistent_network_id" .i32 <| .cons "operating_frequency" .i32 .nil)
    .exact
    (fun i => (i.sourceAddress?, i.ownerAddress?, i.networkAddress?, i.networkId, i.frequency, ()))
    (fun (sourceAddress?, ownerAddress?, networkAddress?, networkId, frequency, ()) =>
      { sourceAddress?, ownerAddress?, networkAddress?, networkId, frequency })

/-- The layout of a station. -/
def Station.layout : Layout Station :=
  .record (.cons "src_address" .buffer <| .cons "p2p_device_address" .buffer .nil) .exact
    (fun s => (s.sourceAddress?, s.peerAddress?, ()))
    (fun (sourceAddress?, peerAddress?, ()) => { sourceAddress?, peerAddress? })

namespace Notification

/-- The layout of what a case carries that has its fields in no structure. -/
def fieldsLayout {β : Type} (fields : Fields β) : Layout β :=
  .record fields .exact id id

/-- The layout of a notification. -/
def layout : Layout Notification :=
  .choice [
    .carrying "DeviceFound" Sighting.layout .deviceFound fun
      | .deviceFound sighting => some sighting
      | _ => none,
    .carrying "DeviceFoundWithVendorElements" FullSighting.layout .deviceFoundWithElements fun
      | .deviceFoundWithElements sighting => some sighting
      | _ => none,
    .carrying "DeviceFoundWithParams" FullSighting.paramsLayout .deviceFoundWithParams fun
      | .deviceFoundWithParams sighting => some sighting
      | _ => none,
    .carrying "DeviceLost" (fieldsLayout (.cons "p2p_device_address" .buffer .nil))
      (fun (peerAddress?, ()) => .deviceLost peerAddress?) fun
      | .deviceLost peerAddress? => some (peerAddress?, ())
      | _ => none,
    .bare "FindStopped" .findStopped (· matches .findStopped),
    .carrying "GoNegotiationRequest"
      (fieldsLayout (.cons "src_address" .buffer <| .cons "password_id" .i32 .nil))
      (fun (sourceAddress?, passwordId, ()) => .negotiationRequest sourceAddress? passwordId) fun
      | .negotiationRequest sourceAddress? passwordId => some (sourceAddress?, passwordId, ())
      | _ => none,
    .carrying "GoNegotiationCompleted" (fieldsLayout (.cons "status" .i32 .nil))
      (fun (status, ()) => .negotiationCompleted status) fun
      | .negotiationCompleted status => some (status, ())
      | _ => none,
    .carrying "GroupStarted" GroupStart.layout .groupStarted fun
      | .groupStarted start => some start
      | _ => none,
    .carrying "GroupStartedWithParams" FullGroupStart.layout .groupStartedWithParams fun
      | .groupStartedWithParams start => some start
      | _ => none,
    .bare "GroupFormationSuccess" .formationSuccess (· matches .formationSuccess),
    .carrying "GroupFormationFailure" (fieldsLayout (.cons "failure_reason" .text .nil))
      (fun (reason, ()) => .formationFailure reason) fun
      | .formationFailure reason => some (reason, ())
      | _ => none,
    .carrying "GroupRemoved"
      (fieldsLayout (.cons "group_interface_name" .text <| .cons "is_group_owner" .bool .nil))
      (fun (interface, isOwner, ()) => .groupRemoved interface isOwner) fun
      | .groupRemoved interface isOwner => some (interface, isOwner, ())
      | _ => none,
    .carrying "ProvisionDiscoveryCompleted" ProvisionReport.layout .provisionCompleted fun
      | .provisionCompleted report => some report
      | _ => none,
    .carrying "ProvisionDiscoveryCompletedEvent" FullProvisionReport.layout
      .provisionCompletedWithParams fun
      | .provisionCompletedWithParams report => some report
      | _ => none,
    .carrying "InvitationReceived" Invitation.layout .invitationReceived fun
      | .invitationReceived invitation => some invitation
      | _ => none,
    .carrying "InvitationResult"
      (fieldsLayout (.cons "bssid" .buffer <| .cons "status" .i32 .nil))
      (fun (networkAddress?, status, ()) => .invitationResult networkAddress? status) fun
      | .invitationResult networkAddress? status => some (networkAddress?, status, ())
      | _ => none,
    .carrying "StaAuthorized" Station.layout .stationAuthorized fun
      | .stationAuthorized station => some station
      | _ => none,
    .carrying "StaDeauthorized" Station.layout .stationDeauthorized fun
      | .stationDeauthorized station => some station
      | _ => none,
    .carrying "ServiceDiscoveryResponse"
      (fieldsLayout (.cons "src_address" .buffer <| .cons "update_indicator" .u16 <|
        .cons "tlvs" .buffer .nil))
      (fun (sourceAddress?, updateIndicator, records?, ()) =>
        .serviceResponse sourceAddress? updateIndicator records?) fun
      | .serviceResponse sourceAddress? updateIndicator records? =>
        some (sourceAddress?, updateIndicator, records?, ())
      | _ => none]

end Notification

end WifiDirect
