import WifiDirect.Proofs.ServiceSizes

/-!
# Responses say no more than their records carry

`Service.Response.scan_not_amplified`: the responses to a query carry at most as many bytes as the
buffer that they are read from, with five more for each of them, and the texts of each take at most
three bytes for each byte of its data.

A pointer of two bytes stands for a suffix of eleven, five more than three times its own bytes. In
an answer that names an instance this may happen twice, in the query and in the name, and is paid
for by the record type and the version between them and by the dot that is cut off with the query
(`NameAnswer.textSize_le`).
-/

namespace WifiDirect.Service

/-! ### Texts -/

/-- The bytes of the texts in an answer to a name query. -/
def NameAnswer.textSize (a : NameAnswer) : Nat :=
  a.queryName.utf8ByteSize + (a.instanceName?.map String.utf8ByteSize).getD 0 +
    (a.texts.entries.map fun e => e.1.utf8ByteSize + e.2.utf8ByteSize).sum

/-- The bytes of the names in an announcement. -/
def Announcement.textSize (a : Announcement) : Nat :=
  (a.uniqueNames.map String.utf8ByteSize).sum

/-- The bytes of all texts in a body. -/
def Body.textSize : Body → Nat
  | .nameAnswer answer => answer.textSize
  | .announcement a => a.textSize
  | .raw => 0

/-! ### Bounds -/

theorem NameAnswer.textSize_le {data : Bytes} {a : NameAnswer} (h : parse? data = some a) :
    a.textSize ≤ 3 * data.length := by
  cases parse?_eq_some_iff.1 h with
  | @naming rest tail version query answer name hquery hanswer hname =>
    obtain ⟨-, hquery⟩ := utf8ByteSize_of_query hquery
    have hinstance := utf8ByteSize_of_instance hanswer hname
    have hsize : textSize ⟨query, 12, version, some name, .empty⟩ =
        query.utf8ByteSize + name.utf8ByteSize := rfl
    omega
  | @listing rest version query entries hquery hentries =>
    obtain ⟨-, hquery⟩ := utf8ByteSize_of_query hquery
    have hsize : textSize ⟨query, 16, version, none, .ofList entries⟩ = query.utf8ByteSize +
        ((Text.Table.ofList entries).entries.map fun e =>
          e.1.utf8ByteSize + e.2.utf8ByteSize).sum := rfl
    have hweigh : (entries.map fun e => e.1.utf8ByteSize + e.2.utf8ByteSize).sum ≤
        3 * rest.length := by
      refine sum_map_entries?_le (fun content e he => ?_) hentries
      have htext := utf8ByteSize_of_entry? he
      omega
    have htable := Text.Table.sum_map_ofList_le
      (fun e => e.1.utf8ByteSize + e.2.utf8ByteSize) entries
    omega

theorem Announcement.textSize_le {data : Bytes} {a : Announcement} (h : parse? data = some a) :
    a.textSize ≤ 3 * data.length := by
  cases data with
  | nil => cases h
  | cons version rest =>
    cases h
    have hweigh : ((Utf8.lossy rest).map (Text.weigh ',' 0)).sum ≤ 3 * rest.length :=
      Text.sum_weigh_lossy_le (Nat.zero_le 3) le_rfl rest
    have hsplit : ((Text.split ',' (Utf8.lossy rest)).map fun part =>
        0 + (part.map Char.utf8Size).sum).sum =
          0 + ((Utf8.lossy rest).map (Text.weigh ',' 0)).sum := Text.sum_map_split _
    have hnames : (((Text.split ',' (Utf8.lossy rest)).map String.ofList).map
        String.utf8ByteSize).sum = ((Utf8.lossy rest).map (Text.weigh ',' 0)).sum := by
      simp only [Nat.zero_add] at hsplit
      rw [← hsplit, List.map_map]
      exact congrArg List.sum (List.map_congr_left fun part _ => Utf8.utf8ByteSize_ofList part)
    rw [textSize, hnames, List.length_cons]
    omega

/-- **Texts take at most three bytes for each byte of the data.** -/
theorem Means.textSize_le {protocol : UInt8} {data : Bytes} {body : Body}
    (h : Means protocol data body) : body.textSize ≤ 3 * data.length := by
  cases h with
  | nothing => exact Nat.zero_le _
  | nameAnswer _ hparse => exact NameAnswer.textSize_le hparse
  | announcement _ hparse => exact Announcement.textSize_le hparse
  | unknown => exact Nat.zero_le _

/-- **Service data are not amplified**: neither all data together, each with the five bytes of a
header, nor the texts of a response. -/
theorem Response.scan_not_amplified (device : Address) (bs : Bytes) :
    ((scan device bs).items.map fun r => 5 + r.data.length).sum ≤ bs.length ∧
      ∀ r ∈ (scan device bs).items, r.body.textSize ≤ 3 * r.data.length := by
  constructor
  · have hscan : ((scan device bs).items.map fun r => 5 + r.data.length).sum ≤ 1 * bs.length := by
      refine Family.sum_items_scan_le (fun e r hcomplete hread => ?_) bs
      obtain ⟨-, -, body, -, rfl⟩ := read_eq_ok_iff.1 hread
      have hheader : e.header.length = 5 := hcomplete.length_header
      rw [Element.bytes, List.length_append, hheader, Nat.one_mul]
    rwa [Nat.one_mul] at hscan
  · intro r hr
    obtain ⟨e, -, hread⟩ := Family.exists_of_mem_items_scan hr
    obtain ⟨-, -, body, hmeans, rfl⟩ := read_eq_ok_iff.1 hread
    exact hmeans.textSize_le

/-- An answer with a pointer to a suffix in the query, and with another one behind a label that is
not well-formed. -/
theorem Response.scan_not_amplified_pointers :
    (⟨1, 0, 7, .zero, [192, 17, 0, 12, 1, 2, 255, 254, 192, 12],
        .nameAnswer ⟨"local.", 12, 1, some "\ufffd\ufffd._tcp", .empty⟩⟩ : Response) ∈
        (scan .zero [13, 0, 1, 7, 0, 192, 17, 0, 12, 1, 2, 255, 254, 192, 12]).items ∧
      (Body.nameAnswer ⟨"local.", 12, 1, some "\ufffd\ufffd._tcp", .empty⟩).textSize ≤ 3 * 10 := by
  have hitems : (scan .zero [13, 0, 1, 7, 0, 192, 17, 0, 12, 1, 2, 255, 254, 192, 12]).items =
      [⟨1, 0, 7, .zero, [192, 17, 0, 12, 1, 2, 255, 254, 192, 12],
        .nameAnswer ⟨"local.", 12, 1, some "\ufffd\ufffd._tcp", .empty⟩⟩] := by decide +kernel
  have hmem := hitems ▸ List.mem_singleton_self _
  exact ⟨hmem, (scan_not_amplified .zero _).2 _ hmem⟩

end WifiDirect.Service
