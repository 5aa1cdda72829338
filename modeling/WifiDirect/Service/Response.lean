import WifiDirect.Service.Body
import WifiDirect.Element.Basic

/-!
# Service responses

The records that a peer answers a service query with. A record that reports a failure, carries too
much or says nothing readable is passed over and leaves the others as they are.
-/

namespace WifiDirect.Service

/-- A service record of a peer. -/
structure Response where
  /-- The protocol that the service speaks. -/
  protocol : UInt8
  status : UInt8
  transaction : UInt8
  device : Address
  data : Bytes
  body : Body
  deriving DecidableEq, Repr

/-- The protocol whose records answer name queries. -/
def nameProtocol : UInt8 := 1

/-- The protocol whose records are announcements. -/
def announcementProtocol : UInt8 := 2

/-- The most data that a record may carry. -/
def maxData : Nat := 1024

/-- Records in a buffer: a little-endian length, which counts what follows it, protocol,
transaction, status and data. -/
def family : Family where
  headerLength := 5
  payloadLength? header :=
    let length := Bytes.ofLittleEndian (header.take 2)
    if 3 ≤ length then some (length - 3) else none
  headerLength_pos := by decide

/-- Why a record is passed over. -/
inductive Skip
  | failed (protocol transaction status : UInt8)
  | oversized (length : Nat)
  | undecodable (protocol transaction : UInt8)
  deriving DecidableEq, Repr

/-- What data say in a protocol. No data say nothing in any protocol. -/
def Body.parse? (protocol : UInt8) (data : Bytes) : Option Body :=
  if data = [] then some .raw
  else if protocol = nameProtocol then (NameAnswer.parse? data).map .nameAnswer
  else if protocol = announcementProtocol then (Announcement.parse? data).map .announcement
  else some .raw

/-- A record of a device. -/
def Response.read (device : Address) (e : Element) : Except Skip Response :=
  let protocol := e.headerByte 2
  let transaction := e.headerByte 3
  let status := e.headerByte 4
  if status ≠ 0 then .error (.failed protocol transaction status)
  else if maxData < e.payload.length then .error (.oversized e.payload.length)
  else
    match Body.parse? protocol e.payload with
    | some body => .ok { protocol, status, transaction, device, data := e.payload, body }
    | none => .error (.undecodable protocol transaction)

/-- **The records of a device in a buffer.** -/
def Response.scan (device : Address) (bs : Bytes) : Scan Response Skip :=
  family.scan (Response.read device) bs

/-- The record of passing over a service record. -/
def Skip.record : Skip → LogRecord
  | .failed protocol transaction status =>
    ⟨.trace, "skipping failed record",
      [("service_type", .int protocol.toNat), ("transaction_id", .int transaction.toNat),
        ("status", .int status.toNat)]⟩
  | .oversized length => ⟨.trace, "skipping oversized record", [("len", .int length)]⟩
  | .undecodable protocol transaction =>
    ⟨.trace, "undecodable record body",
      [("service_type", .int protocol.toNat), ("transaction_id", .int transaction.toNat)]⟩

/-- The layout of a response. -/
def Response.layout : Layout Response :=
  .record
    (.cons "service_type" .u8 <| .cons "status" .u8 <| .cons "transaction_id" .u8 <|
      .cons "device" .address <| .cons "data" .bytes <| .cons "body" Body.layout .nil)
    .exact
    (fun r => (r.protocol, r.status, r.transaction, r.device, r.data, r.body, ()))
    (fun (protocol, status, transaction, device, data, body, ()) =>
      { protocol, status, transaction, device, data, body })

end WifiDirect.Service
