import WifiDirect.Delivery
import WifiDirect.Frame.Basic

/-!
# Foreign callers

Decoding for callers that know only bytes: a frame with a notification goes in, and the frame of its
event is put at the front of a buffer of the caller, or a code says why not. Any argument may be
missing.
-/

namespace WifiDirect.Foreign

/-- The format of notifications that is understood. -/
def version : UInt8 := Notification.formatVersion

/-- What a caller holds: a decoder for an interface. -/
structure Handle where
  interface : String
  deriving DecidableEq, Repr

/-- The handle for an interface whose name is given in UTF-8. -/
def create (name? : Option Bytes) : Option Handle := do
  let name ← name?
  let interface ← (Utf8.text name).toOption
  return ⟨interface⟩

/-- What a call comes to. -/
inductive Status
  /-- A frame of `size` bytes is written. -/
  | written (size : Nat)
  /-- The notification is malformed. -/
  | dropped
  /-- An argument is missing, the frame is not readable, or the buffer is too small. -/
  | badArguments
  /-- A status has no entry in its table. -/
  | unmapped
  deriving DecidableEq, Repr

/-- The code that a caller sees, a signed number of four bytes. -/
def Status.code : Status → Int
  | .written size => (Int32.ofNat size).toInt
  | .dropped => 0
  | .badArguments => -1
  | .unmapped => -2

/-- What a call does: its status, what the buffer holds afterwards, and the records. -/
structure Call where
  status : Status
  buffer? : Option Bytes
  records : List LogRecord
  deriving DecidableEq, Repr

/-- Puts the frame of an event at the front of a buffer, if it fits. -/
def write (event : Event) (buffer : Bytes) : Status × Bytes :=
  match Frame.encode Event.layout event with
  | .error _ => (.badArguments, buffer)
  | .ok frame =>
    let size := frame.length
    if size ≤ buffer.length then (.written size, frame ++ buffer.drop size)
    else (.badArguments, buffer)

/-- What becomes of a notification that is rejected, for a caller. -/
def Status.ofRejection : Rejection → Status
  | .dropped .. => .dropped
  | .unmapped .. => .unmapped

/-- The record of rejecting a notification. -/
def rejectionRecord (interface : String) (rejection : Rejection) : LogRecord :=
  match rejection with
  | .dropped callback reason => Rejection.dropRecord interface callback reason
  | .unmapped .. =>
    ⟨.warn, "decode failed", [("iface", .text interface), ("error", .text rejection.message)]⟩

/-- A call whose arguments are all there. -/
def decodeFrame (handle : Handle) (input buffer : Bytes) : Call :=
  match Frame.read Notification.layout input with
  | .error problem =>
    ⟨.badArguments, some buffer, [⟨.debug, "bad callback frame", [("error", .text problem.message)]⟩]⟩
  | .ok frame =>
    match frame.value.decode with
    | .error rejection =>
      ⟨.ofRejection rejection, some buffer, [rejectionRecord handle.interface rejection]⟩
    | .ok decoded =>
      let (status, buffer) := write decoded.event buffer
      ⟨status, some buffer, decoded.notes⟩

/-- **Decodes one framed notification.** -/
def decode (handle? : Option Handle) (input? buffer? : Option Bytes) : Call :=
  match handle?, input?, buffer? with
  | some handle, some input, some buffer => decodeFrame handle input buffer
  | _, _, _ => ⟨.badArguments, buffer?, []⟩

end WifiDirect.Foreign
