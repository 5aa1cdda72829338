import WifiDirect.Service.Name
import WifiDirect.Text.Split
import WifiDirect.Layout.Record
import WifiDirect.Layout.Choice

/-!
# Bodies of service records

What a record says, by its protocol: an answer to a name query, either the name of an instance or a
table of texts, or a list of unique service names.
-/

namespace WifiDirect.Service

/-- An answer to a query for a service name. -/
structure NameAnswer where
  queryName : String
  /-- The kind of record that was asked for. -/
  recordType : UInt16
  version : UInt8
  /-- The instance, where instances were asked for. -/
  instanceName? : Option String
  /-- The texts of the instance, where these were asked for. -/
  texts : Text.Table
  deriving DecidableEq, Repr

/-- The services that a device announces. -/
structure Announcement where
  version : UInt8
  uniqueNames : List String
  deriving DecidableEq, Repr

/-- What a service record says. -/
inductive Body
  | nameAnswer (answer : NameAnswer)
  | announcement (announcement : Announcement)
  | raw
  deriving DecidableEq, Repr

/-- The record type that asks for instances of a service. -/
def instanceRecord : UInt16 := 12

/-- The record type that asks for the texts of an instance. -/
def textRecord : UInt16 := 16

/-- The instance in an answer: what stands before a dot and the length of the query. -/
def instanceOf? (answer query : String) : Option String :=
  if query.utf8ByteSize + 1 ≤ answer.utf8ByteSize then
    (Text.takeSize? (answer.utf8ByteSize - (query.utf8ByteSize + 1)) answer.toList).map
      String.ofList
  else none

/-- An entry `key=value` of a text table. -/
def entry? (bs : Bytes) : Option (String × String) :=
  (Text.splitOnce? '=' (Utf8.lossy bs)).map fun (key, value) =>
    (String.ofList key, String.ofList value)

/-- The entries of a text table, each after its length. Entries of length zero say nothing. -/
def entries? (bs : Bytes) : Option (List (String × String)) :=
  match bs with
  | [] => some []
  | b :: rest =>
    if b = 0 then entries? rest
    else
      match _h : Bytes.splitExact b.toNat rest with
      | none => none
      | some (content, rest') =>
        match entry? content, entries? rest' with
        | some entry, some entries => some (entry :: entries)
        | _, _ => none
  termination_by bs.length
  decreasing_by
    · simp
    · have := congrArg List.length (Bytes.splitExact_eq_some_iff.1 _h).2
      simp only [List.length_append, List.length_cons] at this ⊢
      omega

/-- **An answer to a name query**: the query, the record type, the version and the answer. -/
def NameAnswer.parse? (bs : Bytes) : Option NameAnswer := do
  let (queryName, rest) ← readName? none bs
  match rest with
  | high :: low :: version :: rest =>
    let recordType := UInt16.ofNat (Bytes.ofBigEndian [high, low])
    if recordType = instanceRecord then
      let (answer, _) ← readName? (some queryName) rest
      let name ← instanceOf? answer queryName
      some ⟨queryName, recordType, version, some name, .empty⟩
    else if recordType = textRecord then
      let entries ← entries? rest
      some ⟨queryName, recordType, version, none, .ofList entries⟩
    else none
  | _ => none

/-- **An announcement**: the version and the names between commas. -/
def Announcement.parse? : Bytes → Option Announcement
  | [] => none
  | version :: rest => some ⟨version, (Text.split ',' (Utf8.lossy rest)).map String.ofList⟩

/-! ### Layouts -/

/-- The layout of an answer to a name query. -/
def NameAnswer.layout : Layout NameAnswer :=
  .record
    (.cons "query_name" .text <| .cons "dns_type" .u16 <| .cons "version" .u8 <|
      .cons "instance_name" (.optional .text) <| .cons "txt" .table .nil)
    .exact
    (fun a => (a.queryName, a.recordType, a.version, a.instanceName?, a.texts, ()))
    (fun (queryName, recordType, version, instanceName?, texts, ()) =>
      { queryName, recordType, version, instanceName?, texts })

/-- The layout of an announcement. -/
def Announcement.layout : Layout Announcement :=
  .record (.cons "version" .u8 <| .cons "unique_service_names" (.list .text) .nil) .exact
    (fun a => (a.version, a.uniqueNames, ()))
    (fun (version, uniqueNames, ()) => { version, uniqueNames })

/-- The layout of a body. -/
def Body.layout : Layout Body :=
  .choice [
    .carrying "DnsSd" NameAnswer.layout .nameAnswer fun
      | .nameAnswer a => some a
      | _ => none,
    .carrying "Upnp" Announcement.layout .announcement fun
      | .announcement a => some a
      | _ => none,
    .bare "Raw" .raw (· matches .raw)]

end WifiDirect.Service
