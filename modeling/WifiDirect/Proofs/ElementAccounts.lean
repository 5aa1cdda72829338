import WifiDirect.Proofs.ServiceRecords

/-!
# No element is passed over in silence

`Family.scans_accounted`: a scan returns each complete element of the buffer or leaves one record
that says why it does not, in the order of the elements, for service records (`Service.Becomes`) and
for elements of vendors (`InformationElement.Becomes`). After them one more record says where and
why the elements end (`Family.LastRecord`), exactly if bytes are left there.

What an element becomes is decided for one element at a time (`Service.becomes_read`,
`InformationElement.becomes_read`), and a scan shares the elements out accordingly
(`Family.shared_elements`).
-/

namespace WifiDirect

/-- The records of a scan, given that of passing over an element. -/
def Scan.records {ι σ : Type} (s : Scan ι σ) (skipRecord : σ → LogRecord) : List LogRecord :=
  s.notes.map (Note.record skipRecord)

namespace Family

variable {f : Family} {ι σ : Type} {Becomes : Element → Except LogRecord ι → Prop}

/-! ### Elements that are shared out -/

/-- Elements are shared out: each in its turn becomes an item, or else a record. -/
inductive Shared (Becomes : Element → Except LogRecord ι → Prop) :
    List Element → List ι → List LogRecord → Prop
  | nil : Shared Becomes [] [] []
  | returned {e : Element} {item : ι} {elements : List Element} {items : List ι}
      {skips : List LogRecord} (h : Becomes e (.ok item))
      (hrest : Shared Becomes elements items skips) :
      Shared Becomes (e :: elements) (item :: items) skips
  | skipped {e : Element} {record : LogRecord} {elements : List Element} {items : List ι}
      {skips : List LogRecord} (h : Becomes e (.error record))
      (hrest : Shared Becomes elements items skips) :
      Shared Becomes (e :: elements) items (record :: skips)

/-- Items and records are together as many as the elements. -/
theorem Shared.length_add_length {elements : List Element} {items : List ι}
    {skips : List LogRecord} (h : Shared Becomes elements items skips) :
    items.length + skips.length = elements.length := by
  induction h with
  | nil => rfl
  | returned _ _ ih =>
    rw [List.length_cons, List.length_cons, ← ih]
    omega
  | skipped _ _ ih =>
    rw [List.length_cons, List.length_cons, ← ih]
    omega

/-- The records of the elements that are passed over. -/
def skipRecords (read : Element → Except σ ι) (skipRecord : σ → LogRecord)
    (elements : List Element) : List LogRecord :=
  elements.filterMap fun e =>
    match read e with
    | .ok _ => none
    | .error why => some (skipRecord why)

theorem shared_elements {read : Element → Except σ ι} {skipRecord : σ → LogRecord}
    (h : ∀ e, Becomes e ((read e).mapError skipRecord)) (elements : List Element) :
    Shared Becomes elements (elements.filterMap fun e => (read e).toOption)
      (skipRecords read skipRecord elements) := by
  induction elements with
  | nil => exact .nil
  | cons e elements ih =>
    have he := h e
    rw [skipRecords, List.filterMap_cons, List.filterMap_cons]
    cases hread : read e with
    | ok item =>
      rw [hread] at he
      exact .returned he ih
    | error why =>
      rw [hread] at he
      exact .skipped he ih

/-! ### The last record -/

/-- **The record of the end**: there is none if nothing is left, and otherwise one of why no further
element begins at the offset. -/
inductive LastRecord (f : Family) (offset : Nat) : Bytes → List LogRecord → Prop
  | nothingLeft : LastRecord f offset [] []
  | truncatedHeader {rest : Bytes} (h : f.Stops rest (some .truncatedHeader)) :
      LastRecord f offset rest [⟨.trace, "truncated element header", [("offset", .int offset)]⟩]
  | invalidHeader {rest : Bytes} (h : f.Stops rest (some .invalidHeader)) :
      LastRecord f offset rest [⟨.trace, "invalid element header", [("offset", .int offset)]⟩]
  | overrun {rest : Bytes} {declared : Nat} (h : f.Stops rest (some (.overrun declared))) :
      LastRecord f offset rest
        [⟨.trace, "element overruns buffer",
          [("offset", .int offset), ("declared", .int declared)]⟩]

theorem LastRecord.eq_nil_iff {offset : Nat} {rest : Bytes} {last : List LogRecord}
    (h : f.LastRecord offset rest last) : last = [] ↔ rest = [] := by
  cases h with
  | nothingLeft => exact iff_of_true rfl rfl
  | truncatedHeader h => exact iff_of_false (List.cons_ne_nil _ _) h.ne_nil
  | invalidHeader h => exact iff_of_false (List.cons_ne_nil _ _) h.ne_nil
  | overrun h => exact iff_of_false (List.cons_ne_nil _ _) h.ne_nil

theorem Stops.lastRecord {rest : Bytes} {ending? : Option Ending} (h : f.Stops rest ending?)
    (offset : Nat) :
    f.LastRecord offset rest (ending?.toList.map fun ending => ending.record offset) := by
  cases ending? with
  | none =>
    cases h
    exact .nothingLeft
  | some ending =>
    cases ending with
    | truncatedHeader => exact .truncatedHeader h
    | invalidHeader => exact .invalidHeader h
    | overrun declared => exact .overrun h

/-! ### Accounts -/

/-- **An account of a buffer**: its complete elements are shared out, and the records are those of
elements that are not returned and then the one of the end, which is there exactly if bytes are
left. -/
def Accounted (f : Family) (Becomes : Element → Except LogRecord ι → Prop) (bs : Bytes)
    (items : List ι) (records : List LogRecord) : Prop :=
  ∃ elements rest skips last,
    f.Divides bs elements rest ∧ Shared Becomes elements items skips ∧
      f.LastRecord (elements.flatMap Element.bytes).length rest last ∧
      records = skips ++ last ∧ (last = [] ↔ rest = []) ∧
      items.length + skips.length = elements.length

theorem records_scan (f : Family) (read : Element → Except σ ι) (skipRecord : σ → LogRecord)
    (bs : Bytes) :
    (f.scan read bs).records skipRecord =
      skipRecords read skipRecord (f.split bs).elements ++
        (f.split bs).ending?.toList.map fun ending =>
          ending.record ((f.split bs).elements.flatMap Element.bytes).length := by
  have hskips : skipRecords read skipRecord (f.split bs).elements =
      ((f.split bs).elements.filterMap fun e =>
        match read e with
        | .ok _ => none
        | .error why => some (Note.skipped why)).map (Note.record skipRecord) := by
    rw [List.map_filterMap]
    refine List.filterMap_congr fun e _ => ?_
    cases read e <;> rfl
  rw [hskips, Scan.records, scan, Decomposition.scan, List.map_append, Decomposition.endNotes,
    List.map_map]
  rfl

/-- **What a scan returns and records accounts for its buffer.** -/
theorem accounted_scan {read : Element → Except σ ι} {skipRecord : σ → LogRecord}
    (h : ∀ e, Becomes e ((read e).mapError skipRecord)) (bs : Bytes) :
    f.Accounted Becomes bs (f.scan read bs).items ((f.scan read bs).records skipRecord) := by
  have hshared := shared_elements h (f.split bs).elements
  have hlast := (complete_and_stops_split f bs).2.lastRecord
    ((f.split bs).elements.flatMap Element.bytes).length
  rw [← items_scan] at hshared
  exact ⟨_, _, _, _, divides_split f bs, hshared, hlast, records_scan f read skipRecord bs,
    hlast.eq_nil_iff, hshared.length_add_length⟩

end Family

/-! ### What becomes of an element -/

namespace Service

/-- **What a service record becomes**: a response, or a record of the first reason against it. A
status of failure is one, then data that are too long, then data that say nothing. -/
inductive Becomes (device : Address) (e : Element) : Except LogRecord Response → Prop
  | failed (hstatus : e.headerByte 4 ≠ 0) :
      Becomes device e (.error ⟨.trace, "skipping failed record",
        [("service_type", .int (e.headerByte 2).toNat),
          ("transaction_id", .int (e.headerByte 3).toNat),
          ("status", .int (e.headerByte 4).toNat)]⟩)
  | oversized (hstatus : e.headerByte 4 = 0) (hlength : 1024 < e.payload.length) :
      Becomes device e (.error ⟨.trace, "skipping oversized record",
        [("len", .int e.payload.length)]⟩)
  | undecodable (hstatus : e.headerByte 4 = 0) (hlength : e.payload.length ≤ 1024)
      (hbody : ∀ body, ¬ Means (e.headerByte 2) e.payload body) :
      Becomes device e (.error ⟨.trace, "undecodable record body",
        [("service_type", .int (e.headerByte 2).toNat),
          ("transaction_id", .int (e.headerByte 3).toNat)]⟩)
  | returned (hstatus : e.headerByte 4 = 0) (hlength : e.payload.length ≤ 1024) {body : Body}
      (hbody : Means (e.headerByte 2) e.payload body) :
      Becomes device e (.ok ⟨e.headerByte 2, 0, e.headerByte 3, device, e.payload, body⟩)

theorem becomes_read (device : Address) (e : Element) :
    Becomes device e ((Response.read device e).mapError Skip.record) := by
  by_cases hstatus : e.headerByte 4 = 0
  swap
  · rw [Response.read, if_pos hstatus]
    exact .failed hstatus
  by_cases hlength : e.payload.length ≤ 1024
  swap
  · rw [Response.read, if_neg (not_not.2 hstatus), maxData, if_pos (Nat.lt_of_not_le hlength)]
    exact .oversized hstatus (Nat.lt_of_not_le hlength)
  cases hbody : Body.parse? (e.headerByte 2) e.payload with
  | none =>
    rw [Response.read, if_neg (not_not.2 hstatus), maxData, if_neg (Nat.not_lt.2 hlength), hbody]
    refine .undecodable hstatus hlength fun body hmeans => ?_
    rw [Body.parse?_eq_some_iff.2 hmeans] at hbody
    cases hbody
  | some body =>
    have hmeans := Body.parse?_eq_some_iff.1 hbody
    rw [Response.read_eq_ok_iff.2 ⟨hstatus, hlength, body, hmeans, rfl⟩]
    exact .returned hstatus hlength hmeans

end Service

namespace InformationElement

/-- **What an information element becomes**: one that is kept if it is a vendor's, or else a record
of its kind, with the extended kind if its payload begins with one. -/
inductive Becomes (e : Element) : Except LogRecord InformationElement → Prop
  | kept (hid : e.headerByte 0 = 221) : Becomes e (.ok ⟨221, none, e.payload⟩)
  | extended (hid : e.headerByte 0 = 255) {extension : UInt8} {rest : Bytes}
      (hpayload : e.payload = extension :: rest) :
      Becomes e (.error ⟨.trace, "skipping non-vendor element",
        [("id", .int 255), ("id_ext", .text ("Some(" ++ toString extension.toNat ++ ")"))]⟩)
  | plain (hid : e.headerByte 0 ≠ 221) (hpayload : e.headerByte 0 = 255 → e.payload = []) :
      Becomes e (.error ⟨.trace, "skipping non-vendor element",
        [("id", .int (e.headerByte 0).toNat), ("id_ext", .text "None")]⟩)

theorem becomes_read (e : Element) : Becomes e ((read e).mapError NotVendor.record) := by
  by_cases hvendor : e.headerByte 0 = 221
  · rw [read_eq_ok_iff.2 ⟨hvendor, rfl⟩]
    exact .kept hvendor
  have hread : read e =
      .error ⟨e.headerByte 0, (splitExtension (e.headerByte 0) e.payload).1⟩ := if_neg hvendor
  rw [hread, splitExtension.eq_def, extendedId]
  by_cases hextended : e.headerByte 0 = 255
  · rw [if_pos hextended]
    cases hpayload : e.payload with
    | nil => exact .plain hvendor fun _ => hpayload
    | cons extension rest =>
      rw [hextended]
      exact .extended hextended hpayload
  · rw [if_neg hextended]
    exact .plain hvendor fun h => absurd h hextended

end InformationElement

/-- **No element is passed over in silence**, be it a service record or an information element. -/
theorem Family.scans_accounted (device : Address) (bs : Bytes) :
    Service.family.Accounted (Service.Becomes device) bs (Service.Response.scan device bs).items
        ((Service.Response.scan device bs).records Service.Skip.record) ∧
      InformationElement.family.Accounted InformationElement.Becomes bs
        (InformationElement.scan bs).items
        ((InformationElement.scan bs).records InformationElement.NotVendor.record) :=
  ⟨accounted_scan (Service.becomes_read device) bs,
    accounted_scan InformationElement.becomes_read bs⟩

end WifiDirect
