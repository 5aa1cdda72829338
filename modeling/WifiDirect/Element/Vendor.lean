import WifiDirect.Element.Basic

/-!
# Vendor elements

Information elements, of which only those of vendors are kept: a byte for the kind, a byte for the
length of the payload, the payload.
-/

namespace WifiDirect

/-- An information element. -/
structure InformationElement where
  id : UInt8
  /-- The kind within the extended elements. -/
  extension? : Option UInt8
  bytes : Bytes
  deriving DecidableEq, Repr

namespace InformationElement

/-- The kind of the elements of vendors. -/
def vendorId : UInt8 := 221

/-- The kind of the elements whose payload begins with a kind of its own. -/
def extendedId : UInt8 := 255

/-- Information elements in a buffer. -/
def family : Family where
  headerLength := 2
  payloadLength? header := some (header.getD 1 0).toNat
  headerLength_pos := by decide

/-- An element that belongs to no vendor. -/
structure NotVendor where
  id : UInt8
  extension? : Option UInt8
  deriving DecidableEq, Repr

/-- The extended kind of an element and what is left of its payload. -/
def splitExtension (id : UInt8) (payload : Bytes) : Option UInt8 × Bytes :=
  if id = extendedId then
    match payload with
    | [] => (none, [])
    | extension :: rest => (some extension, rest)
  else (none, payload)

/-- An element of a vendor. -/
def read (e : Element) : Except NotVendor InformationElement :=
  let id := e.headerByte 0
  let (extension?, bytes) := splitExtension id e.payload
  if id = vendorId then .ok ⟨id, extension?, bytes⟩ else .error ⟨id, extension?⟩

/-- **The elements of vendors in a buffer.** -/
def scan (bs : Bytes) : Scan InformationElement NotVendor :=
  family.scan read bs

/-- An optional byte as records write it. -/
def optionalByteText : Option UInt8 → String
  | none => "None"
  | some b => "Some(" ++ toString b.toNat ++ ")"

/-- The record of passing over an element. -/
def NotVendor.record (e : NotVendor) : LogRecord :=
  ⟨.trace, "skipping non-vendor element",
    [("id", .int e.id.toNat), ("id_ext", .text (optionalByteText e.extension?))]⟩

end InformationElement

end WifiDirect
