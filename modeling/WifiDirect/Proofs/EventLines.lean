import WifiDirect.Delivery
import WifiDirect.Proofs.JsonForms
import WifiDirect.Proofs.JsonText

/-!
# Lines of events

`Event.exists_line`: the line of an event has no control character, so it is one line whatever a
peer writes into it, and what it says is the interface, the kind of the event and what the event
carries.
-/

namespace WifiDirect

/-! ### What a line carries -/

/-- Whether the data of a line are what an event carries. `null` stands for nothing, and a
provisioning that failed leaves only its device and its reason. -/
def Event.IsReadFrom (data : Json) : Event → Prop
  | .deviceFound device => Peer.layout.ofJson? data = some device
  | .deviceLost device => Peer.layout.ofJson? data = some device
  | .findStopped => data = .null
  | .negotiationRequest request => NegotiationRequest.layout.ofJson? data = some request
  | .negotiationSuccess => data = .null
  | .negotiationFailure status => GroupStatus.layout.ofJson? data = some status
  | .groupStarted group => Group.layout.ofJson? data = some group
  | .formationSuccess => data = .null
  | .formationFailure reason => Layout.text.ofJson? data = some reason
  | .groupRemoved group => RemovedGroup.layout.ofJson? data = some group
  | .provision p =>
    match p.outcome with
    | .failure reason => ∃ device reason', data =
        .object [(some "device", device), (some "reason", reason')] ∧
        Peer.layout.ofJson? device = some p.device ∧
        ProvisionFailure.layout.ofJson? reason' = some reason
    | _ => Provision.layout.ofJson? data = some p
  | .invitationReceived group => Group.layout.ofJson? data = some group
  | .invitationResult status => GroupStatus.layout.ofJson? data = some status
  | .stationAuthorized device => Peer.layout.ofJson? data = some device
  | .stationDeauthorized device => Peer.layout.ofJson? data = some device
  | .serviceResponses responses =>
    (Layout.list Service.Response.layout).ofJson? data = some responses

theorem Outcome.eq_failure_or (o : Outcome) :
    (∃ reason, o = .failure reason) ∨ ∀ reason, o ≠ .failure reason := by
  cases o with
  | failure reason => exact .inl ⟨reason, rfl⟩
  | _ => exact .inr nofun

/-! ### Members in the order of their keys -/

/-- Members that are in order stay where they are. -/
theorem Json.sortKeys_ofMembers {members : List (String × Json)}
    (h : (members.map Prod.fst).Pairwise (· ≤ ·)) :
    (Json.ofMembers members).sortKeys = .ofMembers (members.map fun m => (m.1, m.2.sortKeys)) := by
  have hsorted : ((members.map fun m => (some m.1, m.2)).map fun m => (m.1, m.2.sortKeys)).Pairwise
      fun a b => Json.keyLE a.1 b.1 = true := by
    rw [List.map_map, List.pairwise_map]
    rw [List.pairwise_map] at h
    exact h.imp fun hle => decide_eq_true hle
  rw [ofMembers, sortKeys, sortKeysMembers_eq_map, List.mergeSort_of_pairwise hsorted, ofMembers,
    List.map_map, List.map_map]
  rfl

namespace SinkCall

theorem sortKeys_toJson (interface : String) (call : SinkCall) :
    (call.toJson interface).sortKeys = .object [(some "data", call.data.sortKeys),
      (some "event", .text call.kind), (some "iface", .text interface)] := by
  rw [toJson, Json.sortKeys_ofMembers (by simp only [List.map_cons, List.map_nil]; decide)]
  simp only [List.map_cons, List.map_nil, Json.ofMembers, Json.text,
    Json.Reorders.string (f := Json.sortKeys)]

/-- What a call hands over is read back from its data. -/
theorem isReadFrom_data (e : Event) : e.IsReadFrom (ofEvent e).data.sortKeys := by
  cases e with
  | deviceFound device => exact Peer.readsBack_layout device
  | deviceLost device => exact Peer.readsBack_layout device
  | findStopped => exact Json.Reorders.null
  | negotiationRequest request => exact NegotiationRequest.readsBack_layout request
  | negotiationSuccess => exact Json.Reorders.null
  | negotiationFailure status => exact GroupStatus.readsBack_layout status
  | groupStarted group => exact Group.readsBack_layout group
  | formationSuccess => exact Json.Reorders.null
  | formationFailure reason => exact Layout.readsBack_text reason
  | groupRemoved group => exact RemovedGroup.readsBack_layout group
  | provision p =>
    rcases p.outcome.eq_failure_or with ⟨reason, hreason⟩ | hother
    · simp only [Event.IsReadFrom, ofEvent, hreason, data]
      rw [Json.sortKeys_ofMembers (by simp only [List.map_cons, List.map_nil]; decide)]
      exact ⟨_, _, rfl, Peer.readsBack_layout p.device, ProvisionFailure.readsBack_layout reason⟩
    · rw [ofEvent_provision hother]
      simp only [Event.IsReadFrom]
      exact Provision.readsBack_layout p
  | invitationReceived group => exact Group.readsBack_layout group
  | invitationResult status => exact GroupStatus.readsBack_layout status
  | stationAuthorized device => exact Peer.readsBack_layout device
  | stationDeauthorized device => exact Peer.readsBack_layout device
  | serviceResponses responses =>
    exact Layout.readsBack_list Service.Response.readsBack_layout responses

/-- The line of a call is read as the call in the order of keys. -/
theorem parse?_line (interface : String) (call : SinkCall) :
    Json.parse? (call.line interface).toList = some (.object [(some "data", call.data.sortKeys),
      (some "event", .text call.kind), (some "iface", .text interface)]) := by
  rw [line, Json.toText, String.toList_ofList, Json.parse?_render, sortKeys_toJson]

/-- **No line has a control character.** -/
theorem le_of_mem_line {interface : String} {call : SinkCall} {c : Char}
    (h : c ∈ (call.line interface).toList) : ' ' ≤ c := by
  rw [line, Json.toText, String.toList_ofList] at h
  exact Json.le_of_mem_render _ h

end SinkCall

/-! ### Handing over an event -/

/-- **An event adds one line**, from which the interface, its kind and what it carries are read. -/
theorem Event.exists_line (interface : String) (e : Event) (buffer : LineBuffer) :
    ∃ line data, ((Delivery.ofEvent e).toBuffer interface buffer).lines = buffer.lines ++ [line] ∧
      (∀ c ∈ line.toList, ' ' ≤ c) ∧
      Json.parse? line.toList = some (.object [(some "data", data), (some "event", .text e.kind),
        (some "iface", .text interface)]) ∧
      e.IsReadFrom data := by
  refine ⟨(SinkCall.ofEvent e).line interface, (SinkCall.ofEvent e).data.sortKeys, ?_,
    fun c hc => SinkCall.le_of_mem_line hc, ?_, SinkCall.isReadFrom_data e⟩
  · rw [Delivery.lines_toBuffer]
    rfl
  · rw [SinkCall.parse?_line, SinkCall.kind_ofEvent]

end WifiDirect
