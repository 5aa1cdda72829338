import WifiDirect.Fault
import WifiDirect.Json.Basic
import WifiDirect.Text.Table

/-!
# Layouts

A layout says once how the values of a type are written in both forms: as bytes in a frame and as
JSON. This module holds the layouts of single values, of optional values and of lists; records and
choices between cases are built from them in their own modules.

As bytes, numbers are little-endian and of fixed width, a truth value or the mark of an optional
value is one byte, and texts, lists and tables follow their count of eight bytes.
-/

namespace WifiDirect

/-- How the values of a type are written. -/
structure Layout (α : Type) where
  /-- The bytes of a value. -/
  encode : α → Bytes
  /-- The value at the front and what follows it. -/
  decode : Bytes → Except Fault (α × Bytes)
  /-- The value as JSON. -/
  toJson : α → Json
  /-- The value that JSON writes. -/
  ofJson? : Json → Option α
  /-- The value of a field that is not written, if it may be left out. -/
  absent : Option α

namespace Layout

variable {α : Type}

/-- The same layout for a field that may be left out. -/
def withDefault (l : Layout α) (a : α) : Layout α :=
  { l with absent := some a }

/-! ### Numbers -/

/-- The first `k` bytes as a number. -/
def decodeWord (k : Nat) (bs : Bytes) : Except Fault (Nat × Bytes) :=
  match bs.splitExact k with
  | some (word, rest) => .ok (word.ofLittleEndian, rest)
  | none => .error .endOfBytes

/-- An unsigned number of `k` bytes. -/
def word (k : Nat) (toNat : α → Nat) (ofNat : Nat → α) : Layout α where
  encode a := Bytes.littleEndian k (toNat a)
  decode bs := do
    let (n, rest) ← decodeWord k bs
    return (ofNat n, rest)
  toJson a := .int (toNat a)
  ofJson? json := do
    let i ← json.int?
    if 0 ≤ i ∧ i.toNat < 1 <<< (8 * k) then some (ofNat i.toNat) else none
  absent := none

/-- A byte. -/
def u8 : Layout UInt8 := word 1 UInt8.toNat UInt8.ofNat

/-- A word of two bytes. -/
def u16 : Layout UInt16 := word 2 UInt16.toNat UInt16.ofNat

/-- A word of four bytes. -/
def u32 : Layout UInt32 := word 4 UInt32.toNat UInt32.ofNat

/-- A signed number of four bytes. -/
def i32 : Layout Int32 where
  encode i := Bytes.littleEndian 4 i.toUInt32.toNat
  decode bs := do
    let (n, rest) ← decodeWord 4 bs
    return ((UInt32.ofNat n).toInt32, rest)
  toJson i := .int i.toInt
  ofJson? json := do
    let i ← json.int?
    if Int32.minValue.toInt ≤ i ∧ i ≤ Int32.maxValue.toInt then some (Int32.ofInt i) else none
  absent := none

/-- A truth value. -/
def bool : Layout Bool where
  encode b := [if b then 1 else 0]
  decode
    | [] => .error .endOfBytes
    | 0 :: rest => .ok (false, rest)
    | 1 :: rest => .ok (true, rest)
    | b :: _ => .error (.badBool b)
  toJson := .bool
  ofJson? := Json.bool?
  absent := none

/-! ### Texts -/

/-- The bytes of a text after their number. -/
def encodeText (s : String) : Bytes :=
  let content := Utf8.bytes s
  Bytes.littleEndian 8 content.length ++ content

/-- The text at the front. -/
def decodeText (bs : Bytes) : Except Fault (String × Bytes) := do
  let (size, rest) ← decodeWord 8 bs
  match rest.splitExact size with
  | none => .error .textTooLong
  | some (content, rest) =>
    match Utf8.text content with
    | .ok s => .ok (s, rest)
    | .error e => .error (.badText e)

/-- A text. -/
def text : Layout String where
  encode := encodeText
  decode := decodeText
  toJson := .text
  ofJson? := Json.text?
  absent := none

/-- A hardware address, written as its text. -/
def address : Layout Address where
  encode a := encodeText a.text
  decode bs := do
    let (s, rest) ← decodeText bs
    match Address.parse? s with
    | some a => .ok (a, rest)
    | none => .error (.badAddress s)
  toJson a := .text a.text
  ofJson? json := json.text?.bind Address.parse?
  absent := none

/-- An Internet address, four bytes in a frame and a text in JSON. -/
def ipv4 : Layout Ipv4 where
  encode := Ipv4.octets
  decode
    | a :: b :: c :: d :: rest => .ok (⟨a, b, c, d⟩, rest)
    | _ => .error .endOfBytes
  toJson ip := .text ip.text
  ofJson? json := json.text?.bind Ipv4.parse?
  absent := none

/-! ### Optional values and lists -/

/-- A value that may be missing; `null` and a field left out say that it is. -/
def optional (l : Layout α) : Layout (Option α) where
  encode
    | none => [0]
    | some a => 1 :: l.encode a
  decode
    | [] => .error .endOfBytes
    | 0 :: rest => .ok (none, rest)
    | 1 :: rest => do
      let (a, rest) ← l.decode rest
      return (some a, rest)
    | b :: _ => .error (.badMark b)
  toJson
    | none => .null
    | some a => l.toJson a
  ofJson?
    | .null => some none
    | json => (l.ofJson? json).map some
  absent := some none

/-- As many values as the count says, after the values `done`, last one first. -/
def decodeMany (decode : Bytes → Except Fault (α × Bytes)) :
    Nat → List α → Bytes → Except Fault (List α × Bytes)
  | 0, done, bs => .ok (done.reverse, bs)
  | n + 1, done, bs =>
    match decode bs with
    | .ok (a, rest) => decodeMany decode n (a :: done) rest
    | .error fault => .error fault

/-- A list of values. -/
def list (l : Layout α) : Layout (List α) where
  encode as := Bytes.littleEndian 8 as.length ++ as.flatMap l.encode
  decode bs := do
    let (count, rest) ← decodeWord 8 bs
    decodeMany l.decode count [] rest
  toJson as := .array (as.map l.toJson)
  ofJson? json := do (← json.items?).mapM l.ofJson?
  absent := none

/-- A run of bytes. -/
def bytes : Layout Bytes := list u8

/-- A key and its text. -/
def encodeEntry (entry : String × String) : Bytes :=
  encodeText entry.1 ++ encodeText entry.2

/-- The key and its text at the front. -/
def decodeEntry (bs : Bytes) : Except Fault ((String × String) × Bytes) := do
  let (key, rest) ← decodeText bs
  let (value, rest) ← decodeText rest
  return ((key, value), rest)

/-- A table, in JSON an object. A key may be repeated; its last text stands. -/
def table : Layout Text.Table where
  encode t := Bytes.littleEndian 8 t.entries.length ++ t.entries.flatMap encodeEntry
  decode bs := do
    let (count, rest) ← decodeWord 8 bs
    let (entries, rest) ← decodeMany decodeEntry count [] rest
    return (.ofList entries, rest)
  toJson t := .ofMembers (t.entries.map fun (key, value) => (key, .text value))
  ofJson? json := do
    let members ← json.members?
    let entries ← members.mapM fun (key, value) => value.text?.map (key, ·)
    return .ofList entries
  absent := none

end Layout

end WifiDirect
