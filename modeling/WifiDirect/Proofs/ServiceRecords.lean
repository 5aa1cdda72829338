import WifiDirect.Proofs.Elements
import WifiDirect.Proofs.LayoutLaws
import WifiDirect.Service.Response

/-!
# Service records are read back

`Service.scan_records`: of records written one after the other, whatever incomplete bytes follow
them, those that report success, carry at most 1024 bytes and say something are the responses, each
once and in its place (`Answers`). A record that is passed over makes no difference to the others.

A record is a complete element (`Record.complete`), so the elements of the buffer are the records,
and it remains to say which of them are read (`Response.read_eq_ok_iff`).
-/

namespace WifiDirect.Service

/-! ### What data say -/

/-- What data say in a protocol: names in the first, announcements in the second, and nothing that
is understood in any other. No data say nothing in any of them. -/
inductive Means : UInt8 → Bytes → Body → Prop
  | nothing (protocol : UInt8) : Means protocol [] .raw
  | nameAnswer {data : Bytes} {answer : NameAnswer} (hne : data ≠ [])
      (h : NameAnswer.parse? data = some answer) : Means 1 data (.nameAnswer answer)
  | announcement {data : Bytes} {announcement : Announcement} (hne : data ≠ [])
      (h : Announcement.parse? data = some announcement) : Means 2 data (.announcement announcement)
  | unknown {protocol : UInt8} {data : Bytes} (hne : data ≠ []) (hname : protocol ≠ 1)
      (hannouncement : protocol ≠ 2) : Means protocol data .raw

theorem Body.parse?_eq_some_iff {protocol : UInt8} {data : Bytes} {body : Body} :
    Body.parse? protocol data = some body ↔ Means protocol data body := by
  constructor
  · intro h
    rw [Body.parse?] at h
    split at h
    · rename_i hnil
      cases h
      rw [hnil]
      exact .nothing protocol
    rename_i hne
    split at h
    · rename_i hname
      obtain ⟨answer, hanswer, rfl⟩ := Option.map_eq_some_iff.1 h
      rw [hname]
      exact .nameAnswer hne hanswer
    rename_i hname
    split at h
    · rename_i hannouncement
      obtain ⟨announcement, hparse, rfl⟩ := Option.map_eq_some_iff.1 h
      rw [hannouncement]
      exact .announcement hne hparse
    · rename_i hannouncement
      cases h
      exact .unknown hne hname hannouncement
  · intro h
    cases h with
    | nothing => rfl
    | nameAnswer hne h =>
      rw [Body.parse?, if_neg hne, nameProtocol, if_pos rfl, h]
      rfl
    | announcement hne h =>
      rw [Body.parse?, if_neg hne, if_neg (by decide), announcementProtocol, if_pos rfl, h]
      rfl
    | unknown hne hname hannouncement =>
      rw [Body.parse?, if_neg hne, nameProtocol, if_neg hname, announcementProtocol,
        if_neg hannouncement]

/-- **Which elements are read**, and as what. -/
theorem Response.read_eq_ok_iff {device : Address} {e : Element} {response : Response} :
    Response.read device e = .ok response ↔
      e.headerByte 4 = 0 ∧ e.payload.length ≤ 1024 ∧
        ∃ body, Means (e.headerByte 2) e.payload body ∧
          response = ⟨e.headerByte 2, 0, e.headerByte 3, device, e.payload, body⟩ := by
  rw [Response.read, maxData]
  by_cases hstatus : e.headerByte 4 = 0
  swap
  · rw [if_pos hstatus]
    exact iff_of_false nofun fun h => hstatus h.1
  by_cases hlength : e.payload.length ≤ 1024
  swap
  · rw [if_neg (not_not.2 hstatus), if_pos (Nat.lt_of_not_le hlength)]
    exact iff_of_false nofun fun h => hlength h.2.1
  rw [if_neg (not_not.2 hstatus), if_neg (Nat.not_lt.2 hlength)]
  cases hbody : Body.parse? (e.headerByte 2) e.payload with
  | none =>
    refine iff_of_false nofun fun ⟨_, _, body, hmeans, _⟩ => ?_
    rw [Body.parse?_eq_some_iff.2 hmeans] at hbody
    cases hbody
  | some body =>
    dsimp only
    rw [hstatus, Except.ok.injEq]
    constructor
    · rintro rfl
      exact ⟨rfl, hlength, body, Body.parse?_eq_some_iff.1 hbody, rfl⟩
    · rintro ⟨-, -, body', hmeans, rfl⟩
      rw [Body.parse?_eq_some_iff.2 hmeans, Option.some.injEq] at hbody
      rw [hbody]

/-! ### Records -/

/-- A service record as a peer writes it. -/
structure Record where
  protocol : UInt8
  transaction : UInt8
  status : UInt8
  data : Bytes
  /-- The length, which counts three bytes more, fits into two bytes. -/
  length_data : data.length ≤ 65532

namespace Record

/-- The header: the length, then protocol, transaction and status, which the length counts. -/
def header (r : Record) : Bytes :=
  Bytes.littleEndian 2 (r.data.length + 3) ++ [r.protocol, r.transaction, r.status]

/-- The record as an element. -/
def element (r : Record) : Element := ⟨r.header, r.data⟩

/-- The bytes of a record. -/
def bytes (r : Record) : Bytes := r.header ++ r.data

/-- The response that a record is read as, if it is not passed over. -/
def response? (device : Address) (r : Record) : Option Response :=
  (Response.read device r.element).toOption

theorem complete (r : Record) : family.Complete r.element where
  length_header := rfl
  payloadLength?_header := by
    have hlength : Bytes.ofLittleEndian (r.header.take 2) = r.data.length + 3 := by
      -- the length fits into its two bytes, so nothing of it is cut off
      have hle := r.length_data
      show Bytes.ofLittleEndian (Bytes.littleEndian 2 (r.data.length + 3)) = _
      rw [Bytes.ofLittleEndian_littleEndian, Nat.mod_eq_of_lt (by omega)]
    show (if 3 ≤ Bytes.ofLittleEndian (r.header.take 2) then
      some (Bytes.ofLittleEndian (r.header.take 2) - 3) else none) = some r.data.length
    rw [hlength, if_pos (by omega), Nat.add_sub_cancel]

theorem flatMap_bytes_element (records : List Record) :
    (records.map element).flatMap Element.bytes = records.flatMap bytes := by
  rw [List.flatMap_map]
  rfl

end Record

/-- A response has what a record of a device says, and the record may be read: it reports success
and carries at most 1024 bytes. -/
structure Answers (device : Address) (record : Record) (response : Response) : Prop where
  succeeded : record.status = 0
  length_data : record.data.length ≤ 1024
  body_means : Means record.protocol record.data response.body
  protocol_eq : response.protocol = record.protocol
  status_eq : response.status = record.status
  transaction_eq : response.transaction = record.transaction
  device_eq : response.device = device
  data_eq : response.data = record.data

theorem Record.response?_eq_some_iff {device : Address} {record : Record} {response : Response} :
    record.response? device = some response ↔ Answers device record response := by
  rw [Record.response?, Family.toOption_eq_some_iff, Response.read_eq_ok_iff]
  constructor
  · rintro ⟨hstatus, hlength, body, hmeans, rfl⟩
    exact ⟨hstatus, hlength, hmeans, rfl, hstatus.symm, rfl, rfl, rfl⟩
  · rintro ⟨hstatus, hlength, hmeans, hprotocol, hstatus', htransaction, hdevice, hdata⟩
    refine ⟨hstatus, hlength, response.body, hmeans, ?_⟩
    cases response
    dsimp only at hprotocol hstatus' htransaction hdevice hdata
    rw [hprotocol, hstatus', hstatus, htransaction, hdevice, hdata]
    rfl

/-! ### What follows the records -/

/-- No complete record begins here: there are fewer bytes than a header has, or the length is
smaller than what it counts of the header, or the record is longer than what there is. -/
def NoRecord (bs : Bytes) : Prop :=
  bs.length < 5 ∨ Bytes.ofLittleEndian (bs.take 2) < 3 ∨
    bs.length < 2 + Bytes.ofLittleEndian (bs.take 2)

theorem NoRecord.stops {bs : Bytes} (h : NoRecord bs) : ∃ ending?, family.Stops bs ending? := by
  by_cases hnil : bs = []
  · exact ⟨none, hnil ▸ .nothingLeft⟩
  by_cases hshort : bs.length < 5
  · exact ⟨_, .truncatedHeader bs hnil hshort⟩
  have hheader : (bs.take 5).length = family.headerLength := by
    rw [List.length_take]
    exact Nat.min_eq_left (by omega)
  have hlength : family.payloadLength? (bs.take 5) =
      if 3 ≤ Bytes.ofLittleEndian (bs.take 2) then some (Bytes.ofLittleEndian (bs.take 2) - 3)
      else none := by
    show (if 3 ≤ Bytes.ofLittleEndian ((bs.take 5).take 2) then _ else _) = _
    rw [List.take_take]
    rfl
  -- a whole header is there: what it declares is wrong, or more than follows it
  rw [← List.take_append_drop 5 bs]
  by_cases hcounted : Bytes.ofLittleEndian (bs.take 2) < 3
  · rw [if_neg (by omega)] at hlength
    exact ⟨_, .invalidHeader _ _ hheader hlength⟩
  · rw [if_pos (by omega)] at hlength
    refine ⟨_, .overrun _ _ _ hheader hlength ?_⟩
    rw [List.length_drop]
    rcases h with h | h | h <;> omega

/-- **Records are read back**, up to what no longer is a record: a record has a response exactly if
it may be read, and one that has none could as well be left out. -/
theorem scan_records (device : Address) (records : List Record) {tail : Bytes}
    (htail : NoRecord tail) :
    (Response.scan device (records.flatMap Record.bytes ++ tail)).items =
        records.filterMap (Record.response? device) ∧
      (∀ record response,
        record.response? device = some response ↔ Answers device record response) ∧
      ∀ before record after, records = before ++ record :: after →
        record.response? device = none →
          (Response.scan device ((before ++ after).flatMap Record.bytes ++ tail)).items =
            (Response.scan device (records.flatMap Record.bytes ++ tail)).items := by
  -- for any list of records, as what is left out at the end gives a second one
  have hitems : ∀ rs : List Record,
      (Response.scan device (rs.flatMap Record.bytes ++ tail)).items =
        rs.filterMap (Record.response? device) := by
    intro rs
    have hdivides : family.Divides (rs.flatMap Record.bytes ++ tail) (rs.map Record.element) tail :=
      { bytes_eq := by rw [Record.flatMap_bytes_element]
        complete := fun e he => by
          obtain ⟨r, -, rfl⟩ := List.mem_map.1 he
          exact r.complete
        stops := htail.stops }
    obtain ⟨ending?, hsplit⟩ := hdivides.split_eq
    rw [Response.scan, Family.items_scan, hsplit, List.filterMap_map]
    rfl
  refine ⟨hitems records, fun _ _ => Record.response?_eq_some_iff, ?_⟩
  rintro before record after rfl hnone
  rw [hitems, hitems, List.filterMap_append, List.filterMap_append,
    List.filterMap_cons_none hnone]

/-- A failed record, one without data and an announcement, then a length that counts too little. -/
theorem scan_records_three :
    NoRecord [2, 0, 1, 1, 0, 7] ∧
      (Response.scan .zero [5, 0, 1, 7, 3, 65, 66, 3, 0, 1, 8, 0, 6, 0, 2, 9, 0, 16, 65, 44,
          2, 0, 1, 1, 0, 7]).items =
        [⟨1, 0, 8, .zero, [], .raw⟩,
          ⟨2, 0, 9, .zero, [16, 65, 44], .announcement ⟨16, ["A", ""]⟩⟩] := by
  have htail : NoRecord [2, 0, 1, 1, 0, 7] := .inr (.inl (by decide))
  have hscan := (scan_records .zero
    [⟨1, 7, 3, [65, 66], by decide⟩, ⟨1, 8, 0, [], by decide⟩, ⟨2, 9, 0, [16, 65, 44], by decide⟩]
    htail).1
  exact ⟨htail, hscan.trans rfl⟩

end WifiDirect.Service
