import WifiDirect.Sink.Call
import WifiDirect.Json.Printer

/-!
# Event lines

A sink that writes each event as one line of JSON: the interface, the kind of the event and what it
carries. The lines stay in a buffer until they are drained.
-/

namespace WifiDirect

namespace SinkCall

/-- The kind of event that a call hands over. -/
def kind : SinkCall → String
  | .deviceFound _ => "device-found"
  | .deviceLost _ => "device-lost"
  | .findStopped => "find-stopped"
  | .negotiationRequest _ => "go-negotiation-request"
  | .negotiationSuccess => "go-negotiation-success"
  | .negotiationFailure _ => "go-negotiation-failure"
  | .groupStarted _ => "group-started"
  | .formationSuccess => "group-formation-success"
  | .formationFailure _ => "group-formation-failure"
  | .groupRemoved _ => "group-removed"
  | .provision _ => "provision-discovery"
  | .provisionFailure .. => "provision-discovery-failure"
  | .invitationReceived _ => "invitation-received"
  | .invitationResult _ => "invitation-result"
  | .stationAuthorized _ => "sta-authorized"
  | .stationDeauthorized _ => "sta-deauthorized"
  | .serviceResponses _ => "service-discovery-response"

/-- What a call hands over, as one value: `null` for nothing, and an object for a provisioning that
failed. -/
def data (call : SinkCall) : Json :=
  match call with
  | .provisionFailure reason device =>
    .ofMembers [("device", Peer.layout.toJson device),
      ("reason", ProvisionFailure.layout.toJson reason)]
  | call =>
    match call.arguments with
    | [] => .null
    | argument :: _ => argument

/-- A call as an object. -/
def toJson (interface : String) (call : SinkCall) : Json :=
  .ofMembers [("data", call.data), ("event", .text call.kind), ("iface", .text interface)]

/-- **The line of a call**, with the members of all objects in the order of their keys. -/
def line (interface : String) (call : SinkCall) : String :=
  (call.toJson interface).sortKeys.toText

/-- The call for an event names the kind of the event. -/
@[simp] theorem kind_ofEvent (e : Event) : (ofEvent e).kind = e.kind := by
  cases e <;> try rfl
  case provision p =>
    simp only [ofEvent, Event.kind]
    split <;> simp_all [kind]

end SinkCall

/-- Lines that wait to be written, first line first. -/
structure LineBuffer where
  lines : List String
  deriving DecidableEq, Repr

namespace LineBuffer

/-- The buffer without lines. -/
def empty : LineBuffer := ⟨[]⟩

/-- The buffer with the line of a call behind the others. -/
def receive (buffer : LineBuffer) (interface : String) (call : SinkCall) : LineBuffer :=
  ⟨buffer.lines ++ [call.line interface]⟩

/-- All lines, and the buffer without them. -/
def drain (buffer : LineBuffer) : List String × LineBuffer :=
  (buffer.lines, empty)

@[simp] theorem lines_receive (buffer : LineBuffer) (interface : String) (call : SinkCall) :
    (buffer.receive interface call).lines = buffer.lines ++ [call.line interface] := rfl

@[simp] theorem lines_drain (buffer : LineBuffer) : buffer.drain.2.lines = [] := rfl

end LineBuffer

end WifiDirect
