import WifiDirect.Proofs.Elements

/-!
# Elements of vendors are read back

`InformationElement.scan_written`: of information elements written one after the other, whatever
incomplete bytes follow them, those of vendors are kept, in their order and with their payload, and
the others might as well not be there.

What a payload holds makes no difference: an element is taken off by its length
(`Written.complete`), and only its kind decides whether it is kept.
-/

namespace WifiDirect.InformationElement

/-- An information element as it is written. -/
structure Written where
  id : UInt8
  payload : Bytes
  /-- The length fits into its byte. -/
  length_payload : payload.length ≤ 255

namespace Written

/-- The bytes of an element: its kind, the length of its payload, and the payload. -/
def bytes (w : Written) : Bytes := w.id :: UInt8.ofNat w.payload.length :: w.payload

/-- The element with its header apart. -/
def element (w : Written) : Element := ⟨[w.id, UInt8.ofNat w.payload.length], w.payload⟩

/-- The element as it is kept, if it is. -/
def kept (w : Written) : InformationElement := ⟨221, none, w.payload⟩

theorem complete (w : Written) : family.Complete w.element where
  length_header := rfl
  payloadLength?_header := by
    have hle := w.length_payload
    show some (UInt8.ofNat w.payload.length).toNat = some w.payload.length
    rw [UInt8.toNat_ofNat', Nat.mod_eq_of_lt (by omega)]

theorem flatMap_bytes_element (ws : List Written) :
    (ws.map element).flatMap Element.bytes = ws.flatMap bytes := by
  rw [List.flatMap_map]
  rfl

theorem toOption_read_of_eq {w : Written} (h : w.id = 221) :
    (read w.element).toOption = some w.kept :=
  Family.toOption_eq_some_iff.2 (read_eq_ok_iff.2 ⟨h, rfl⟩)

theorem toOption_read_of_ne {w : Written} (h : w.id ≠ 221) : (read w.element).toOption = none := by
  refine Option.eq_none_iff_forall_ne_some.2 fun kept hkept => h ?_
  exact (read_eq_ok_iff.1 (Family.toOption_eq_some_iff.1 hkept)).1

/-- The elements of vendors are kept. -/
theorem filterMap_read (ws : List Written) :
    ((ws.map element).filterMap fun e => (read e).toOption) =
      (ws.filter (·.id = 221)).map kept := by
  induction ws with
  | nil => rfl
  | cons w ws ih =>
    rw [List.map_cons, List.filterMap_cons, List.filter_cons]
    by_cases h : w.id = 221
    · rw [toOption_read_of_eq h, if_pos (decide_eq_true h), List.map_cons, ← ih]
    · rw [toOption_read_of_ne h, if_neg (by rwa [decide_eq_true_eq]), ← ih]

end Written

/-- No complete element begins here: kind or length is missing, or fewer bytes follow the length
than it says. -/
inductive NoElement : Bytes → Prop
  | short {bs : Bytes} (h : bs.length < 2) : NoElement bs
  | overrun (id length : UInt8) {rest : Bytes} (h : rest.length < length.toNat) :
      NoElement (id :: length :: rest)

theorem NoElement.stops {bs : Bytes} (h : NoElement bs) : ∃ ending?, family.Stops bs ending? := by
  cases h with
  | short h =>
    by_cases hnil : bs = []
    · exact ⟨none, hnil ▸ .nothingLeft⟩
    · exact ⟨_, .truncatedHeader bs hnil h⟩
  | overrun id length h => exact ⟨_, .overrun [id, length] _ length.toNat rfl rfl h⟩

/-- **Elements of vendors are read back**, up to what no longer is an element, and those of any
other kind could as well be left out. -/
theorem scan_written (ws : List Written) {tail : Bytes} (htail : NoElement tail) :
    (scan (ws.flatMap Written.bytes ++ tail)).items =
        (ws.filter (·.id = 221)).map (fun w => ⟨221, none, w.payload⟩) ∧
      ∀ before w after, ws = before ++ w :: after → w.id ≠ 221 →
        (scan ((before ++ after).flatMap Written.bytes ++ tail)).items =
          (scan (ws.flatMap Written.bytes ++ tail)).items := by
  obtain ⟨ending?, hstops⟩ := htail.stops
  -- for any list of elements, as what is left out at the end gives a second one
  have hitems : ∀ us : List Written,
      (scan (us.flatMap Written.bytes ++ tail)).items =
        (us.filter (·.id = 221)).map Written.kept := by
    intro us
    have hcomplete : ∀ e ∈ us.map Written.element, family.Complete e := by
      intro e he
      obtain ⟨u, -, rfl⟩ := List.mem_map.1 he
      exact u.complete
    rw [scan, ← Written.flatMap_bytes_element, Family.items_scan_append hcomplete,
      hstops.items_scan, List.append_nil, Written.filterMap_read]
  refine ⟨hitems ws, ?_⟩
  rintro before w after rfl hw
  rw [hitems, hitems, List.filter_append, List.filter_append,
    List.filter_cons_of_neg (by rwa [decide_eq_true_eq])]

/-- An element whose payload looks like one of a vendor, two with the kind of the extended elements,
of which one has no payload, and a vendor's last one that is cut off. -/
theorem scan_written_five :
    NoElement [221, 3, 1, 2] ∧
      (scan [221, 1, 7, 0, 3, 221, 1, 9, 255, 3, 35, 221, 0, 255, 0, 221, 0, 221, 3, 1, 2]).items =
        [⟨221, none, [7]⟩, ⟨221, none, []⟩] := by
  have htail : NoElement [221, 3, 1, 2] := .overrun 221 3 (by decide)
  exact ⟨htail, (scan_written [⟨221, [7], by decide⟩, ⟨0, [221, 1, 9], by decide⟩,
    ⟨255, [35, 221, 0], by decide⟩, ⟨255, [], by decide⟩, ⟨221, [], by decide⟩] htail).1⟩

end WifiDirect.InformationElement
