import WifiDirect.Event

/-!
# Sink calls

A sink receives events by one call each. A provisioning that failed has a call of its own, which
hands over the reason and the device; every other call hands over what its event carries.
-/

namespace WifiDirect

/-- A call that hands an event to a sink. -/
inductive SinkCall
  | deviceFound (device : Peer)
  | deviceLost (device : Peer)
  | findStopped
  | negotiationRequest (request : NegotiationRequest)
  | negotiationSuccess
  | negotiationFailure (status : GroupStatus)
  | groupStarted (group : Group)
  | formationSuccess
  | formationFailure (reason : String)
  | groupRemoved (group : RemovedGroup)
  | provision (provision : Provision)
  | provisionFailure (reason : ProvisionFailure) (device : Peer)
  | invitationReceived (group : Group)
  | invitationResult (status : GroupStatus)
  | stationAuthorized (device : Peer)
  | stationDeauthorized (device : Peer)
  | serviceResponses (responses : List Service.Response)
  deriving DecidableEq, Repr

namespace SinkCall

/-- **The one call that hands over an event.** -/
def ofEvent : Event → SinkCall
  | .deviceFound device => .deviceFound device
  | .deviceLost device => .deviceLost device
  | .findStopped => .findStopped
  | .negotiationRequest request => .negotiationRequest request
  | .negotiationSuccess => .negotiationSuccess
  | .negotiationFailure status => .negotiationFailure status
  | .groupStarted group => .groupStarted group
  | .formationSuccess => .formationSuccess
  | .formationFailure reason => .formationFailure reason
  | .groupRemoved group => .groupRemoved group
  | .provision p =>
    match p.outcome with
    | .failure reason => .provisionFailure reason p.device
    | _ => .provision p
  | .invitationReceived group => .invitationReceived group
  | .invitationResult status => .invitationResult status
  | .stationAuthorized device => .stationAuthorized device
  | .stationDeauthorized device => .stationDeauthorized device
  | .serviceResponses responses => .serviceResponses responses

/-- The event that a call hands over. The group interface of a provisioning that failed is lost. -/
def event : SinkCall → Event
  | .deviceFound device => .deviceFound device
  | .deviceLost device => .deviceLost device
  | .findStopped => .findStopped
  | .negotiationRequest request => .negotiationRequest request
  | .negotiationSuccess => .negotiationSuccess
  | .negotiationFailure status => .negotiationFailure status
  | .groupStarted group => .groupStarted group
  | .formationSuccess => .formationSuccess
  | .formationFailure reason => .formationFailure reason
  | .groupRemoved group => .groupRemoved group
  | .provision p => .provision p
  | .provisionFailure reason device =>
    .provision { device, outcome := .failure reason, groupInterface? := none }
  | .invitationReceived group => .invitationReceived group
  | .invitationResult status => .invitationResult status
  | .stationAuthorized device => .stationAuthorized device
  | .stationDeauthorized device => .stationDeauthorized device
  | .serviceResponses responses => .serviceResponses responses

/-- The name of a call. -/
def name : SinkCall → String
  | .deviceFound _ => "on_device_found"
  | .deviceLost _ => "on_device_lost"
  | .findStopped => "on_find_stopped"
  | .negotiationRequest _ => "on_go_negotiation_request"
  | .negotiationSuccess => "on_go_negotiation_success"
  | .negotiationFailure _ => "on_go_negotiation_failure"
  | .groupStarted _ => "on_group_started"
  | .formationSuccess => "on_group_formation_success"
  | .formationFailure _ => "on_group_formation_failure"
  | .groupRemoved _ => "on_group_removed"
  | .provision _ => "on_provision_discovery"
  | .provisionFailure .. => "on_provision_discovery_failure"
  | .invitationReceived _ => "on_invitation_received"
  | .invitationResult _ => "on_invitation_result"
  | .stationAuthorized _ => "on_sta_authorized"
  | .stationDeauthorized _ => "on_sta_deauthorized"
  | .serviceResponses _ => "on_service_discovery_response"

/-- What a call hands over, in order, as JSON. -/
def arguments : SinkCall → List Json
  | .deviceFound device => [Peer.layout.toJson device]
  | .deviceLost device => [Peer.layout.toJson device]
  | .findStopped => []
  | .negotiationRequest request => [NegotiationRequest.layout.toJson request]
  | .negotiationSuccess => []
  | .negotiationFailure status => [GroupStatus.layout.toJson status]
  | .groupStarted group => [Group.layout.toJson group]
  | .formationSuccess => []
  | .formationFailure reason => [Layout.text.toJson reason]
  | .groupRemoved group => [RemovedGroup.layout.toJson group]
  | .provision p => [Provision.layout.toJson p]
  | .provisionFailure reason device =>
    [ProvisionFailure.layout.toJson reason, Peer.layout.toJson device]
  | .invitationReceived group => [Group.layout.toJson group]
  | .invitationResult status => [GroupStatus.layout.toJson status]
  | .stationAuthorized device => [Peer.layout.toJson device]
  | .stationDeauthorized device => [Peer.layout.toJson device]
  | .serviceResponses responses => [(Layout.list Service.Response.layout).toJson responses]

/-- A provisioning is handed over whole unless it failed. -/
theorem ofEvent_provision {p : Provision} (h : ∀ reason, p.outcome ≠ .failure reason) :
    ofEvent (.provision p) = .provision p := by
  simp only [ofEvent]

/-- A call that an event makes is made by the event that it hands over. -/
theorem ofEvent_event_ofEvent (e : Event) : ofEvent (event (ofEvent e)) = ofEvent e := by
  cases e <;> try rfl
  case provision p =>
    by_cases h : ∃ reason, p.outcome = .failure reason
    · obtain ⟨reason, hreason⟩ := h
      simp [ofEvent, event, hreason]
    · have h := ofEvent_provision fun reason hr => h ⟨reason, hr⟩
      rw [h]
      exact h

end SinkCall

end WifiDirect
