import WifiDirect.Element.Vendor
import WifiDirect.Layout.Record
import WifiDirect.Layout.Choice

/-!
# Peers

A device as one event shows it, and the fields of fixed layout that describe it.
-/

namespace WifiDirect

/-! ### Display information -/

/-- What a device says of itself as a wireless display. -/
structure DisplayInfo where
  deviceInfo : UInt16
  controlPort : UInt16
  maxThroughput : UInt16
  /-- The information of the second release. -/
  secondRelease? : Option UInt16
  deriving DecidableEq, Repr

namespace DisplayInfo

/-- Three big-endian words, of which none may be missing, and a further one in a buffer of its own,
which may. -/
def ofBytes? (info? secondRelease? : Option Bytes) : Option DisplayInfo := do
  let info ← info?
  let deviceInfo ← Bytes.word16At 0 info
  let controlPort ← Bytes.word16At 2 info
  let maxThroughput ← Bytes.word16At 4 info
  return { deviceInfo, controlPort, maxThroughput
           secondRelease? := secondRelease?.bind (Bytes.word16At 0) }

/-- There is display information where a buffer has its three words. -/
theorem isSome_ofBytes? {info? secondRelease? : Option Bytes} :
    (ofBytes? info? secondRelease?).isSome ↔ ∃ bs, info? = some bs ∧ 6 ≤ bs.length := by
  cases info? with
  | none => exact iff_of_false nofun nofun
  | some bs =>
    have hfirst : (bs.word16At 0).isSome ↔ 0 + 2 ≤ bs.length := Bytes.isSome_word16At
    have hsecond : (bs.word16At 2).isSome ↔ 2 + 2 ≤ bs.length := Bytes.isSome_word16At
    have hthird : (bs.word16At 4).isSome ↔ 4 + 2 ≤ bs.length := Bytes.isSome_word16At
    have hwords : (ofBytes? (some bs) secondRelease?).isSome =
        ((bs.word16At 0).isSome && (bs.word16At 2).isSome && (bs.word16At 4).isSome) := by
      rw [ofBytes?, Option.bind_eq_bind, Option.bind_some]
      cases bs.word16At 0 <;> cases bs.word16At 2 <;> cases bs.word16At 4 <;> rfl
    rw [hwords, Bool.and_eq_true, Bool.and_eq_true, hfirst, hsecond, hthird]
    simp only [Option.some.injEq, exists_eq_left']
    omega

/-- The layout of display information. -/
def layout : Layout DisplayInfo :=
  .record
    (.cons "device_info" .u16 <| .cons "control_port" .u16 <| .cons "max_throughput" .u16 <|
      .cons "r2_device_info" (.optional .u16) .nil)
    .exact
    (fun d => (d.deviceInfo, d.controlPort, d.maxThroughput, d.secondRelease?, ()))
    (fun (deviceInfo, controlPort, maxThroughput, secondRelease?, ()) =>
      { deviceInfo, controlPort, maxThroughput, secondRelease? })

end DisplayInfo

/-! ### Device type -/

/-- The text of a device type: category, the four bytes that name who defines it, subcategory. -/
def deviceTypeText : Bytes → Except Malformed String
  | [c1, c2, o1, o2, o3, o4, s1, s2] =>
    let category := Nat.toDigits 10 (Bytes.ofBigEndian [c1, c2])
    let owner := (Bytes.toHex [o1, o2, o3, o4]).map Char.toUpper
    let subcategory := Nat.toDigits 10 (Bytes.ofBigEndian [s1, s2])
    .ok (String.ofList (category ++ '-' :: owner ++ '-' :: subcategory))
  | bs => .error (.deviceType bs.length)

/-! ### Peers -/

/-- Whether a device can be reached. -/
inductive Availability
  | available
  | unavailable
  deriving DecidableEq, Repr

/-- The availability as JSON names it. -/
def Availability.name : Availability → String
  | .available => "Available"
  | .unavailable => "Unavailable"

/-- The layout of an availability. -/
def Availability.layout : Layout Availability :=
  .enumeration [.available, .unavailable] name

/-- A device as one event shows it. -/
structure Peer where
  address : Address
  name : String
  deviceType : String
  deviceCapability : UInt8
  groupCapability : Int32
  /-- The configuration methods, a bit for each. -/
  methods : UInt16
  availability : Availability
  display? : Option DisplayInfo
  vendorElements : List InformationElement
  deriving DecidableEq, Repr

/-- A device of which only the address is known. -/
def Peer.ofAddress (address : Address) : Peer where
  address := address
  name := ""
  deviceType := ""
  deviceCapability := 0
  groupCapability := 0
  methods := 0
  availability := .unavailable
  display? := none
  vendorElements := []

/-- The layout of an information element. -/
def InformationElement.layout : Layout InformationElement :=
  .record (.cons "id" .u8 <| .cons "id_ext" (.optional .u8) <| .cons "bytes" .bytes .nil) .exact
    (fun e => (e.id, e.extension?, e.bytes, ()))
    (fun (id, extension?, bytes, ()) => { id, extension?, bytes })

/-- The layout of a device. -/
def Peer.layout : Layout Peer :=
  .record
    (.cons "address" .address <| .cons "name" .text <| .cons "primary_device_type" .text <|
      .cons "device_capability" .u8 <| .cons "group_capability" .i32 <|
      .cons "wps_config_methods" .u16 <| .cons "status" Availability.layout <|
      .cons "wfd_info" (.optional DisplayInfo.layout) <|
      .cons "vendor_elements" (.list InformationElement.layout) .nil)
    .exact
    (fun p => (p.address, p.name, p.deviceType, p.deviceCapability, p.groupCapability, p.methods,
      p.availability, p.display?, p.vendorElements, ()))
    (fun (address, name, deviceType, deviceCapability, groupCapability, methods, availability,
        display?, vendorElements, ()) =>
      { address, name, deviceType, deviceCapability, groupCapability, methods, availability,
        display?, vendorElements })

end WifiDirect
