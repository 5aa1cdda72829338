import WifiDirect.Bytes

/-!
# Rejections

Why a notification yields no event. What a noisy peer can cause drops the notification; a status
outside the known tables says that the tables are out of date.
-/

namespace WifiDirect

/-- A field whose content is checked. -/
inductive Field
  | address
  | sourceAddress
  | peerAddress
  | ownerAddress
  | deviceType
  | deviceName
  | groupInterface
  | ssid
  deriving DecidableEq, Repr

/-- The field as messages name it. -/
def Field.name : Field → String
  | .address => "address"
  | .sourceAddress => "src_address"
  | .peerAddress => "p2p_device_address"
  | .ownerAddress => "go_device_address"
  | .deviceType => "primary_device_type"
  | .deviceName => "device_name"
  | .groupInterface => "group_interface_name"
  | .ssid => "ssid"

/-- What is wrong with a field. -/
inductive Malformed
  /-- An address of `length` bytes. -/
  | address (field : Field) (length : Nat)
  /-- No content at all. -/
  | missing (field : Field)
  /-- A device type of `length` bytes. -/
  | deviceType (length : Nat)
  /-- Configuration methods of which none can be served. -/
  | methods (bits : UInt16)
  deriving DecidableEq, Repr

/-- The fault in words. -/
def Malformed.message : Malformed → String
  | .address field length => s!"{field.name}: expected 6-byte address, got {length} bytes"
  | .missing field => s!"missing required field {field.name}"
  | .deviceType length => s!"primary device type: expected 8 bytes, got {length}"
  | .methods bits =>
    "unsupported config methods 0x" ++
      String.ofList ((Bytes.littleEndian 2 bits.toNat).reverse.flatMap Bytes.hexPair)

/-- A table of status codes. -/
inductive StatusTable
  | provision
  | group
  deriving DecidableEq, Repr

/-- The table as messages name it. -/
def StatusTable.name : StatusTable → String
  | .provision => "provision discovery status"
  | .group => "p2p status"

/-- Why a notification yields no event. -/
inductive Rejection
  /-- The notification, named by `callback`, is malformed. -/
  | dropped (callback : String) (reason : Malformed)
  /-- A status has no entry in its table. -/
  | unmapped (table : StatusTable) (value : Int32)
  deriving DecidableEq, Repr

/-- The rejection in words. -/
def Rejection.message : Rejection → String
  | .dropped callback reason => s!"dropped {callback}: {reason.message}"
  | .unmapped table value => s!"unmapped {table.name} value {value.toInt}"

end WifiDirect
