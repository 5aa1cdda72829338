import WifiDirect.Peer

/-!
# Groups

A group of devices, its network, and the status codes that forming one reports.
-/

namespace WifiDirect

/-! ### Status -/

/-- What forming or joining a group came to. -/
inductive GroupStatus
  | success
  | informationUnavailable
  | incompatibleParameters
  | limitReached
  | invalidParameter
  | unableToAccommodate
  | previousProtocolError
  | noCommonChannel
  | unknownGroup
  | bothOwnerIntent
  | incompatibleProvisioning
  | rejectedByUser
  | successDeferred
  deriving DecidableEq, Repr

namespace GroupStatus

/-- The statuses in the order of their codes, which begin at zero. -/
def all : List GroupStatus :=
  [.success, .informationUnavailable, .incompatibleParameters, .limitReached, .invalidParameter,
    .unableToAccommodate, .previousProtocolError, .noCommonChannel, .unknownGroup,
    .bothOwnerIntent, .incompatibleProvisioning, .rejectedByUser, .successDeferred]

/-- The status as JSON names it. -/
def name : GroupStatus → String
  | .success => "Success"
  | .informationUnavailable => "InformationIsCurrentlyUnavailable"
  | .incompatibleParameters => "IncompatibleParameters"
  | .limitReached => "LimitReached"
  | .invalidParameter => "InvalidParameter"
  | .unableToAccommodate => "UnableToAccommodateRequest"
  | .previousProtocolError => "PreviousProtocolError"
  | .noCommonChannel => "NoCommonChannel"
  | .unknownGroup => "UnknownP2pGroup"
  | .bothOwnerIntent => "BothGoIntent15"
  | .incompatibleProvisioning => "IncompatibleProvisioningMethod"
  | .rejectedByUser => "RejectedByUser"
  | .successDeferred => "SuccessDeferred"

/-- The code of a status. -/
def code (s : GroupStatus) : Nat := all.idxOf s

/-- The status that a code reports. -/
def ofCode (code : Int32) : Except Rejection GroupStatus :=
  if code < 0 then .error (.unmapped .group code)
  else
    match all[code.toInt.toNat]? with
    | some s => .ok s
    | none => .error (.unmapped .group code)

/-- The layout of a status. -/
def layout : Layout GroupStatus := .enumeration all name

end GroupStatus

/-! ### Networks -/

/-- The text of a network name: the characters that it writes in UTF-8, and where it is no UTF-8 its
bytes in hexadecimal. -/
def networkNameText (bs : Bytes) : String :=
  match Utf8.text bs with
  | .ok s => s
  | .error _ => String.ofList bs.toHex

/-- The addresses that a group hands to a client. -/
structure ClientAddresses where
  client : Ipv4
  owner : Ipv4
  mask : Ipv4
  deriving DecidableEq, Repr

/-- The layout of a client's addresses. -/
def ClientAddresses.layout : Layout ClientAddresses :=
  .record (.cons "client" .ipv4 <| .cons "group_owner" .ipv4 <| .cons "mask" .ipv4 .nil) .exact
    (fun a => (a.client, a.owner, a.mask, ()))
    (fun (client, owner, mask, ()) => { client, owner, mask })

/-- A group. -/
structure Group where
  /-- The interface of the group, unknown for an invitation. -/
  interface? : Option String
  isOwner : Bool
  /-- The name of the network, unknown for an invitation. -/
  networkName? : Option String
  networkId : Int32
  owner : Peer
  clients : List Peer
  /-- The passphrase of the network. An open one has none, which is not an empty one. -/
  passphrase? : Option String
  frequency : Int32
  interfaceAddress? : Option Address
  clientAddresses? : Option ClientAddresses
  deriving DecidableEq, Repr

namespace Group

/-- The network id of a group that is not kept. -/
def temporaryId : Int32 := -1

/-- The network id of a group that is kept. -/
def persistentId : Int32 := -2

/-- The layout of a group. -/
def layout : Layout Group :=
  .record
    (.cons "interface" (.optional .text) <| .cons "is_group_owner" .bool <|
      .cons "network_name" (.optional .text) <| .cons "network_id" .i32 <|
      .cons "owner" Peer.layout <| .cons "clients" (.list Peer.layout) <|
      .cons "passphrase" (.optional .text) <| .cons "frequency_mhz" .i32 <|
      .cons "interface_address" (.optional .address) <|
      .cons "client_ip_info" (.optional ClientAddresses.layout) .nil)
    .exact
    (fun g => (g.interface?, g.isOwner, g.networkName?, g.networkId, g.owner, g.clients,
      g.passphrase?, g.frequency, g.interfaceAddress?, g.clientAddresses?, ()))
    (fun (interface?, isOwner, networkName?, networkId, owner, clients, passphrase?, frequency,
        interfaceAddress?, clientAddresses?, ()) =>
      { interface?, isOwner, networkName?, networkId, owner, clients, passphrase?, frequency,
        interfaceAddress?, clientAddresses? })

end Group

/-- A group that is gone. -/
structure RemovedGroup where
  interface : String
  isOwner : Bool
  deriving DecidableEq, Repr

/-- The layout of a group that is gone. -/
def RemovedGroup.layout : Layout RemovedGroup :=
  .record (.cons "interface" .text <| .cons "is_group_owner" .bool .nil) .exact
    (fun g => (g.interface, g.isOwner, ()))
    (fun (interface, isOwner, ()) => { interface, isOwner })

end WifiDirect
