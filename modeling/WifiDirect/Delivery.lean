import WifiDirect.Decode
import WifiDirect.Sink.Line
import WifiDirect.Sink.Record

/-!
# Delivery

A notification is decoded and its event handed to a sink. What a peer can cause is dropped without
an error; only a status outside the known tables is one.
-/

namespace WifiDirect

/-- What becomes of a notification. -/
inductive Fate
  /-- Its event is handed over. -/
  | handedOver (call : SinkCall)
  /-- It is malformed and dropped. -/
  | dropped (callback : String) (reason : Malformed)
  /-- Its status has no entry in its table. -/
  | unmapped (table : StatusTable) (value : Int32)
  deriving DecidableEq, Repr

/-- The call that is made. -/
def Fate.call? : Fate → Option SinkCall
  | .handedOver call => some call
  | _ => none

/-- The error that is reported. -/
def Fate.error? : Fate → Option Rejection
  | .unmapped table value => some (.unmapped table value)
  | _ => none

/-- A delivery: what becomes of the notification, and the records of decoding it. -/
structure Delivery where
  fate : Fate
  decodeRecords : List LogRecord
  deriving DecidableEq, Repr

namespace Rejection

/-- What becomes of a notification that is rejected. -/
def fate : Rejection → Fate
  | .dropped callback reason => .dropped callback reason
  | .unmapped table value => .unmapped table value

/-- The record of dropping a notification on an interface. -/
def dropRecord (interface callback : String) (reason : Malformed) : LogRecord :=
  ⟨.debug, "dropped malformed callback",
    [("iface", .text interface), ("callback", .text callback), ("reason", .text reason.message)]⟩

/-- The record of rejecting a notification on an interface; `name` is that of the notification. -/
def record (interface name : String) (rejection : Rejection) : LogRecord :=
  match rejection with
  | .dropped callback reason => dropRecord interface callback reason
  | .unmapped .. =>
    ⟨.warn, "decode failed",
      [("iface", .text interface), ("callback", .text name),
        ("error", .text rejection.message)]⟩

end Rejection

namespace Delivery

/-- The record of handing over an event. -/
def dispatchRecord (interface : String) (event : Event) : LogRecord :=
  ⟨.trace, "dispatching", [("iface", .text interface), ("kind", .text event.kind)]⟩

/-- **Delivers a notification of an interface.** -/
def ofNotification (interface : String) (n : Notification) : Delivery :=
  match n.decode with
  | .ok decoded =>
    ⟨.handedOver (.ofEvent decoded.event), decoded.notes ++ [dispatchRecord interface decoded.event]⟩
  | .error rejection => ⟨rejection.fate, [rejection.record interface n.name]⟩

/-- An event that is handed over without being decoded. -/
def ofEvent (event : Event) : Delivery :=
  ⟨.handedOver (.ofEvent event), []⟩

/-- The lines of a delivery to the sink that writes lines. -/
def lines (interface : String) (d : Delivery) : List String :=
  d.fate.call?.toList.map (SinkCall.line interface)

/-- All records of a delivery to the sink that reports, in their order. -/
def records (interface : String) (d : Delivery) : List LogRecord :=
  d.decodeRecords ++ d.fate.call?.toList.map (SinkCall.record interface)

/-- Hands the event to a buffer of lines. -/
def toBuffer (interface : String) (d : Delivery) (buffer : LineBuffer) : LineBuffer :=
  match d.fate.call? with
  | some call => buffer.receive interface call
  | none => buffer

/-- A delivery adds its lines behind those that wait. -/
theorem lines_toBuffer (interface : String) (d : Delivery) (buffer : LineBuffer) :
    (d.toBuffer interface buffer).lines = buffer.lines ++ d.lines interface := by
  unfold toBuffer lines
  split <;> simp_all

end Delivery

end WifiDirect
