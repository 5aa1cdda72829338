import WifiDirect.Sink.Call
import WifiDirect.Log
import WifiDirect.Text.Quoted

/-!
# Event records

A sink that reports each event as one log record. Of a group it names the network, never the
passphrase.
-/

namespace WifiDirect

/-- An outcome as records write it. -/
def Outcome.recordText : Outcome → String
  | .enterPin => "EnterPin"
  | .showPin pin => "ShowPin(" ++ Text.quoted pin ++ ")"
  | .pushButtonRequest => "PbcRequest"
  | .pushButtonResponse => "PbcResponse"
  | .failure reason => "Failure(" ++ reason.name ++ ")"

/-- The address of a client as records write it. -/
def ClientAddresses.recordText : Option ClientAddresses → String
  | none => "None"
  | some addresses => "Some(" ++ addresses.client.text ++ ")"

namespace SinkCall

/-- What the record of a call says. -/
def message : SinkCall → String
  | .deviceFound _ => "device found"
  | .deviceLost _ => "device lost"
  | .findStopped => "find stopped"
  | .negotiationRequest _ => "go negotiation request"
  | .negotiationSuccess => "go negotiation success"
  | .negotiationFailure _ => "go negotiation failure"
  | .groupStarted _ => "group started"
  | .formationSuccess => "group formation success"
  | .formationFailure _ => "group formation failure"
  | .groupRemoved _ => "group removed"
  | .provision _ => "provision discovery"
  | .provisionFailure .. => "provision discovery failure"
  | .invitationReceived _ => "invitation received"
  | .invitationResult _ => "invitation result"
  | .stationAuthorized _ => "station authorized"
  | .stationDeauthorized _ => "station deauthorized"
  | .serviceResponses _ => "service discovery response"

/-- The values that the record of a call names. -/
def fields : SinkCall → List (String × LogValue)
  | .deviceFound device =>
    [("address", .text device.address.text), ("name", .text device.name),
      ("device_type", .text device.deviceType), ("wfd", .bool device.display?.isSome),
      ("vendor_elements", .int device.vendorElements.length)]
  | .deviceLost device => [("address", .text device.address.text)]
  | .findStopped => []
  | .negotiationRequest request =>
    [("address", .text request.device.text), ("setup", .text request.setup.name)]
  | .negotiationSuccess => []
  | .negotiationFailure status => [("status", .text status.name)]
  | .groupStarted group =>
    [("group", .text (group.interface?.getD "")), ("ssid", .text (group.networkName?.getD "")),
      ("owner", .text group.owner.address.text), ("is_group_owner", .bool group.isOwner),
      ("network_id", .int group.networkId.toInt), ("frequency_mhz", .int group.frequency.toInt),
      ("client_ip", .text (ClientAddresses.recordText group.clientAddresses?))]
  | .formationSuccess => []
  | .formationFailure reason => [("reason", .text reason)]
  | .groupRemoved group =>
    [("group", .text group.interface), ("is_group_owner", .bool group.isOwner)]
  | .provision p =>
    [("address", .text p.device.address.text), ("outcome", .text p.outcome.recordText)]
  | .provisionFailure reason device =>
    [("address", .text device.address.text), ("reason", .text reason.name)]
  | .invitationReceived group =>
    [("owner", .text group.owner.address.text), ("network_id", .int group.networkId.toInt),
      ("frequency_mhz", .int group.frequency.toInt)]
  | .invitationResult status => [("status", .text status.name)]
  | .stationAuthorized device => [("address", .text device.address.text)]
  | .stationDeauthorized device => [("address", .text device.address.text)]
  | .serviceResponses responses => [("records", .int responses.length)]

/-- **The record of a call.** -/
def record (interface : String) (call : SinkCall) : LogRecord :=
  ⟨.info, call.message, ("iface", .text interface) :: call.fields⟩

end SinkCall

end WifiDirect
