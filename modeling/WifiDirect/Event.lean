import WifiDirect.Group
import WifiDirect.Provision
import WifiDirect.Service.Response

/-!
# Events

What a notification means once it is decoded.
-/

namespace WifiDirect

/-- A peer that asks to negotiate who owns the group. -/
structure NegotiationRequest where
  device : Address
  setup : Setup
  deriving DecidableEq, Repr

/-- The layout of a request to negotiate. -/
def NegotiationRequest.layout : Layout NegotiationRequest :=
  .record (.cons "device_address" .address <| .cons "wps_setup" Setup.layout .nil) .exact
    (fun r => (r.device, r.setup, ()))
    (fun (device, setup, ()) => { device, setup })

/-- An event. -/
inductive Event
  | deviceFound (device : Peer)
  | deviceLost (device : Peer)
  | findStopped
  | negotiationRequest (request : NegotiationRequest)
  | negotiationSuccess
  | negotiationFailure (status : GroupStatus)
  | groupStarted (group : Group)
  | formationSuccess
  | formationFailure (reason : String)
  | groupRemoved (group : RemovedGroup)
  | provision (provision : Provision)
  | invitationReceived (group : Group)
  | invitationResult (status : GroupStatus)
  | stationAuthorized (device : Peer)
  | stationDeauthorized (device : Peer)
  | serviceResponses (responses : List Service.Response)
  deriving DecidableEq, Repr

namespace Event

/-- The kind of an event. A provisioning that failed is a kind of its own. -/
def kind : Event → String
  | .deviceFound _ => "device-found"
  | .deviceLost _ => "device-lost"
  | .findStopped => "find-stopped"
  | .negotiationRequest _ => "go-negotiation-request"
  | .negotiationSuccess => "go-negotiation-success"
  | .negotiationFailure _ => "go-negotiation-failure"
  | .groupStarted _ => "group-started"
  | .formationSuccess => "group-formation-success"
  | .formationFailure _ => "group-formation-failure"
  | .groupRemoved _ => "group-removed"
  | .provision p =>
    match p.outcome with
    | .failure _ => "provision-discovery-failure"
    | _ => "provision-discovery"
  | .invitationReceived _ => "invitation-received"
  | .invitationResult _ => "invitation-result"
  | .stationAuthorized _ => "sta-authorized"
  | .stationDeauthorized _ => "sta-deauthorized"
  | .serviceResponses _ => "service-discovery-response"

/-- The layout of an event. -/
def layout : Layout Event :=
  .choice [
    .carrying "DeviceFound" Peer.layout .deviceFound fun
      | .deviceFound device => some device
      | _ => none,
    .carrying "DeviceLost" Peer.layout .deviceLost fun
      | .deviceLost device => some device
      | _ => none,
    .bare "FindStopped" .findStopped (· matches .findStopped),
    .carrying "GoNegotiationRequest" NegotiationRequest.layout .negotiationRequest fun
      | .negotiationRequest request => some request
      | _ => none,
    .bare "GoNegotiationSuccess" .negotiationSuccess (· matches .negotiationSuccess),
    .carrying "GoNegotiationFailure" GroupStatus.layout .negotiationFailure fun
      | .negotiationFailure status => some status
      | _ => none,
    .carrying "GroupStarted" Group.layout .groupStarted fun
      | .groupStarted group => some group
      | _ => none,
    .bare "GroupFormationSuccess" .formationSuccess (· matches .formationSuccess),
    .carrying "GroupFormationFailure" .text .formationFailure fun
      | .formationFailure reason => some reason
      | _ => none,
    .carrying "GroupRemoved" RemovedGroup.layout .groupRemoved fun
      | .groupRemoved group => some group
      | _ => none,
    .carrying "ProvisionDiscovery" Provision.layout .provision fun
      | .provision p => some p
      | _ => none,
    .carrying "InvitationReceived" Group.layout .invitationReceived fun
      | .invitationReceived group => some group
      | _ => none,
    .carrying "InvitationResult" GroupStatus.layout .invitationResult fun
      | .invitationResult status => some status
      | _ => none,
    .carrying "StaAuthorized" Peer.layout .stationAuthorized fun
      | .stationAuthorized device => some device
      | _ => none,
    .carrying "StaDeauthorized" Peer.layout .stationDeauthorized fun
      | .stationDeauthorized device => some device
      | _ => none,
    .carrying "ServiceDiscoveryResponse" (.list Service.Response.layout) .serviceResponses fun
      | .serviceResponses responses => some responses
      | _ => none]

end Event

end WifiDirect
