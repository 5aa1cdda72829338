import WifiDirect.Proofs.Decoding
import WifiDirect.Proofs.EventLines

/-!
# Delivery to sinks

`Delivery.sinks_agree`: what notifications come to is the same for every sink. It is called once for
each notification that has an event, in order, and for no other; the sink that reports writes one
record for each call, the sink that writes lines one line. However its lines are drained meanwhile,
together they are these lines.
-/

namespace WifiDirect

/-! ### Events and calls -/

/-- The events of notifications in order. Those that are rejected have none. -/
def Notification.events (ns : List Notification) : List Event :=
  ns.filterMap fun n => n.event.toOption

open Notification (events)

theorem Notification.events_cons (n : Notification) (ns : List Notification) :
    events (n :: ns) = n.event.toOption.toList ++ events ns := by
  rw [events, List.filterMap_cons]
  cases n.event <;> rfl

namespace Delivery

variable {n : Notification}

/-- An event is handed over. -/
theorem fate_of_event (interface : String) {e : Event} (h : n.event = .ok e) :
    (ofNotification interface n).fate = .handedOver (.ofEvent e) := by
  obtain ⟨decoded, hdecode, rfl⟩ := Notification.event_eq_ok_iff.1 h
  rw [ofNotification, hdecode]

/-- Where there is no event, the rejection decides. -/
theorem fate_of_event_error (interface : String) {rejection : Rejection}
    (h : n.event = .error rejection) : (ofNotification interface n).fate = rejection.fate := by
  rw [ofNotification, Notification.event_eq_error_iff.1 h]

/-- **A call is made just for an event.** -/
theorem call?_ofNotification (interface : String) (n : Notification) :
    (ofNotification interface n).fate.call? = n.event.toOption.map .ofEvent := by
  cases h : n.event with
  | ok e =>
    rw [fate_of_event interface h]
    rfl
  | error rejection =>
    rw [fate_of_event_error interface h]
    cases rejection <;> rfl

/-- **An error is reported just for a status in no table.** -/
theorem error?_ofNotification (interface : String) (n : Notification) (r : Rejection) :
    (ofNotification interface n).fate.error? = some r ↔
      n.event = .error r ∧ ∃ table value, r = .unmapped table value := by
  cases h : n.event with
  | ok e =>
    rw [fate_of_event interface h]
    exact iff_of_false nofun nofun
  | error rejection =>
    rw [fate_of_event_error interface h]
    cases rejection with
    | dropped callback reason =>
      refine iff_of_false nofun ?_
      rintro ⟨hr, table, value, rfl⟩
      cases hr
    | unmapped table value =>
      constructor
      · intro hr
        cases hr
        exact ⟨rfl, table, value, rfl⟩
      · rintro ⟨hr, -⟩
        cases hr
        rfl

theorem lines_ofNotification (interface : String) (n : Notification) :
    (ofNotification interface n).lines interface =
      n.event.toOption.toList.map fun e => (SinkCall.ofEvent e).line interface := by
  rw [lines, call?_ofNotification]
  cases n.event <;> rfl

/-! ### Sinks of any kind -/

/-- Delivers notifications to a sink, given what it makes of a call on an interface. -/
def deliverTo {σ : Type} (receive : σ → String → SinkCall → σ) (interface : String)
    (ns : List Notification) (s : σ) : σ :=
  ns.foldl (fun s n =>
    match (ofNotification interface n).fate.call? with
    | some call => receive s interface call
    | none => s) s

theorem deliverTo_eq_foldl {σ : Type} (receive : σ → String → SinkCall → σ) (interface : String)
    (ns : List Notification) (s : σ) :
    deliverTo receive interface ns s =
      (events ns).foldl (fun s e => receive s interface (.ofEvent e)) s := by
  induction ns generalizing s with
  | nil => rfl
  | cons n ns ih =>
    rw [deliverTo, List.foldl_cons, Notification.events_cons, List.foldl_append,
      call?_ofNotification]
    cases n.event with
    | ok e => exact ih _
    | error r => exact ih _

end Delivery

/-! ### Methods -/

/-- The name of the method for a kind of event. -/
def methodName (kind : String) : String :=
  "on_" ++ String.ofList (kind.toList.map fun c => if c = '-' then '_' else c)

/-- The event without what its call leaves out: the group interface of a provisioning that
failed. -/
def Event.handedOver : Event → Event
  | .provision p =>
    match p.outcome with
    | .failure _ => .provision { p with groupInterface? := none }
    | _ => .provision p
  | e => e

namespace SinkCall

theorem name_eq_methodName (call : SinkCall) : call.name = methodName call.kind := by
  cases call <;> simp only [name, kind] <;> decide +kernel

theorem kind_eq_ofList (call : SinkCall) : call.kind =
    String.ofList ((call.name.toList.drop 3).map fun c => if c = '_' then '-' else c) := by
  cases call <;> simp only [name, kind] <;> decide +kernel

/-- **Each kind of event has a method of its own.** -/
theorem name_eq_name_iff (call call' : SinkCall) :
    call.name = call'.name ↔ call.kind = call'.kind := by
  constructor
  · intro h
    rw [kind_eq_ofList, h, ← kind_eq_ofList]
  · intro h
    rw [name_eq_methodName, h, ← name_eq_methodName]

/-- **The event is rebuilt from its call.** -/
theorem event_ofEvent (e : Event) : (ofEvent e).event = e.handedOver := by
  cases e <;> try rfl
  case provision p =>
    rcases p.outcome.eq_failure_or with ⟨reason, hreason⟩ | hother
    · simp [ofEvent, event, Event.handedOver, hreason]
    · rw [ofEvent_provision hother]
      simp only [Event.handedOver]
      rfl

end SinkCall

/-! ### Records -/

/-- A record that only a trace shows. -/
def LogRecord.IsTrace (r : LogRecord) : Prop := r.level = .trace

theorem Note.isTrace_record {σ : Type} {skipRecord : σ → LogRecord}
    (h : ∀ why, (skipRecord why).IsTrace) (note : Note σ) : (note.record skipRecord).IsTrace := by
  cases note with
  | skipped why => exact h why
  | ended offset ending => cases ending <;> rfl

theorem InformationElement.NotVendor.isTrace_record (e : NotVendor) : e.record.IsTrace := rfl

theorem Service.Skip.isTrace_record (skip : Skip) : skip.record.IsTrace := by
  cases skip <;> rfl

theorem FullSighting.yields_isTrace_device (s : FullSighting) :
    Yields (fun device => ∀ r ∈ device.2, r.IsTrace) s.device := by
  refine .bind_of_forall fun _ => .bind_of_forall fun _ => .bind_of_forall fun _ =>
    .bind_of_forall fun _ => .bind_of_forall fun _ => .ok ?_
  intro r hr
  obtain ⟨note, -, rfl⟩ := List.mem_map.1 hr
  exact Note.isTrace_record InformationElement.NotVendor.isTrace_record note

theorem FullSighting.yields_isTrace_decode (s : FullSighting) :
    Yields (fun decoded => ∀ r ∈ decoded.notes, r.IsTrace) s.decode :=
  (s.yields_isTrace_device.dropping _).bind fun _ h => .ok h

/-- **The notes of decoding are for a trace.** -/
theorem Notification.yields_isTrace_decode (n : Notification) :
    Yields (fun decoded => ∀ r ∈ decoded.notes, r.IsTrace) n.decode := by
  have hnone (e : Event) : ∀ r ∈ (Decoded.ofEvent e).notes, r.IsTrace := nofun
  cases n with
  | deviceFound s => exact s.full.yields_isTrace_decode
  | deviceFoundWithElements s => exact s.yields_isTrace_decode
  | deviceFoundWithParams s => exact s.yields_isTrace_decode
  | findStopped => exact .ok (hnone _)
  | formationSuccess => exact .ok (hnone _)
  | formationFailure reason => exact .ok (hnone _)
  | groupRemoved interface isOwner => exact .ok (hnone _)
  | serviceResponse sourceAddress? updateIndicator records? =>
    refine .bind_of_forall fun device => .ok fun r hr => ?_
    obtain ⟨note, -, rfl⟩ := List.mem_map.1 hr
    exact Note.isTrace_record Service.Skip.isTrace_record note
  | _ => exact .bind_of_forall fun _ => .ok (hnone _)

namespace Delivery

/-- Of the records of a delivery, the one of its call informs. -/
theorem filter_records_ofNotification (interface : String) (n : Notification) :
    ((ofNotification interface n).records interface).filter (·.level = .info) =
      n.event.toOption.toList.map fun e => (SinkCall.ofEvent e).record interface := by
  have hdecode : (ofNotification interface n).decodeRecords.filter (·.level = .info) = [] := by
    rw [List.filter_eq_nil_iff, ofNotification]
    cases h : n.decode with
    | ok decoded =>
      intro r hr
      have htrace : r.IsTrace := by
        rcases List.mem_append.1 hr with hnote | hlast
        · exact n.yields_isTrace_decode decoded h r hnote
        · cases List.mem_singleton.1 hlast
          rfl
      rw [htrace]
      decide
    | error rejection =>
      intro r hr
      cases List.mem_singleton.1 hr
      cases rejection <;> exact Bool.false_ne_true
  rw [records, List.filter_append, hdecode, List.nil_append, call?_ofNotification]
  cases n.event <;> rfl

theorem filter_records (interface : String) (ns : List Notification) :
    (ns.flatMap fun n => (ofNotification interface n).records interface).filter (·.level = .info) =
      (events ns).map fun e => (SinkCall.ofEvent e).record interface := by
  induction ns with
  | nil => rfl
  | cons n ns ih =>
    rw [List.flatMap_cons, List.filter_append, filter_records_ofNotification, ih,
      Notification.events_cons, List.map_append]

end Delivery

/-! ### Lines -/

/-- A step of a session with the sink that writes lines. -/
inductive LineStep
  | deliver (n : Notification)
  | drain
  deriving DecidableEq, Repr

namespace LineStep

/-- The notification of a step that delivers one. -/
def notification? : LineStep → Option Notification
  | .deliver n => some n
  | .drain => none

/-- What the drains of a session give, the last of which ends it. -/
def drains (interface : String) : List LineStep → LineBuffer → List (List String)
  | [], buffer => [buffer.drain.1]
  | .deliver n :: steps, buffer =>
    drains interface steps ((Delivery.ofNotification interface n).toBuffer interface buffer)
  | .drain :: steps, buffer => buffer.drain.1 :: drains interface steps buffer.drain.2

/-- **No line is lost and none is repeated**, wherever the drains are. -/
theorem flatten_drains (interface : String) (steps : List LineStep) (buffer : LineBuffer) :
    (drains interface steps buffer).flatten = buffer.lines ++
      (events (steps.filterMap notification?)).map fun e => (SinkCall.ofEvent e).line interface := by
  induction steps generalizing buffer with
  | nil => rfl
  | cons step steps ih =>
    cases step with
    | deliver n =>
      rw [drains, ih, Delivery.lines_toBuffer, Delivery.lines_ofNotification,
        List.filterMap_cons_some (f := notification?) rfl, Notification.events_cons,
        List.map_append, List.append_assoc]
    | drain =>
      rw [drains, List.flatten_cons, ih, List.filterMap_cons_none (f := notification?) rfl]
      rfl

end LineStep

/-! ### The sinks together -/

open LineStep in
/-- **Delivery is the same for every sink.** -/
theorem Delivery.sinks_agree (interface : String) (ns : List Notification) :
    -- a sink is called once for each event, in order, and told the interface
    (∀ (σ : Type) (receive : σ → String → SinkCall → σ) (s : σ),
      deliverTo receive interface ns s =
        (events ns).foldl (fun s e => receive s interface (.ofEvent e)) s) ∧
    -- only a status in no table is an error
    (∀ n r, (ofNotification interface n).fate.error? = some r ↔
      n.event = .error r ∧ ∃ table value, r = .unmapped table value) ∧
    -- each kind of event has one method, from whose arguments the event is rebuilt
    (∀ e, (SinkCall.ofEvent e).name = methodName e.kind ∧
      (SinkCall.ofEvent e).event = e.handedOver) ∧
    (∀ e e', (SinkCall.ofEvent e).name = (SinkCall.ofEvent e').name ↔ e.kind = e'.kind) ∧
    -- one record informs of each call
    (ns.flatMap fun n => (ofNotification interface n).records interface).filter (·.level = .info) =
      (events ns).map (fun e => (SinkCall.ofEvent e).record interface) ∧
    -- each call has one line, which names the kind, and the drains give these lines
    (∀ e, ∃ data, Json.parse? ((SinkCall.ofEvent e).line interface).toList =
      some (.object [(some "data", data), (some "event", .text e.kind),
        (some "iface", .text interface)])) ∧
    ∀ steps, steps.filterMap notification? = ns →
      (drains interface steps .empty).flatten =
        (events ns).map fun e => (SinkCall.ofEvent e).line interface := by
  refine ⟨fun σ receive s => deliverTo_eq_foldl receive interface ns s,
    error?_ofNotification interface, fun e => ⟨?_, SinkCall.event_ofEvent e⟩, fun e e' => ?_,
    filter_records interface ns, fun e => ⟨(SinkCall.ofEvent e).data.sortKeys, ?_⟩, ?_⟩
  · rw [SinkCall.name_eq_methodName, SinkCall.kind_ofEvent]
  · rw [SinkCall.name_eq_name_iff, SinkCall.kind_ofEvent, SinkCall.kind_ofEvent]
  · rw [SinkCall.parse?_line, SinkCall.kind_ofEvent]
  · rintro steps rfl
    exact flatten_drains interface steps .empty

end WifiDirect
