import WifiDirect.Element.Scanner
import WifiDirect.Proofs.Elements
import WifiDirect.Proofs.LayoutLaws
import WifiDirect.Service.Response

/-!
# Scanning finds the division of a buffer

`Reader.scan_divides`: the elements that a scanner reads are those of the one division of its
buffer, for every reader of elements. No position within the buffer wraps around. A payload that is
declared so long that its end is no machine word is longer than the buffer, so that the division ends
before it; a sum that wraps around leads to the same end, and a checked one breaks the scan off
(`Reader.Overflows`).

What is left of the buffer at a position (`Buffer.RestAt`) ties the scanner's rounds to those that
take elements off a run of bytes: one round for a complete element (`Reader.next?_of_complete`), one
for an end (`Reader.next?_of_stops`), and the run by induction on the elements.
-/

namespace WifiDirect

/-! ### Positions -/

/-- A sum that is a machine word is found. -/
theorem Arithmetic.exists_add? (a : Arithmetic) {m n : USize}
    (h : m.toNat + n.toNat < USize.size) :
    ∃ sum, a.add? m n = some sum ∧ sum.toNat = m.toNat + n.toNat := by
  have hsum : a.add? m n = some (m + n) := by
    cases a with
    | wrapping => rfl
    | checked => exact if_pos h
  exact ⟨_, hsum, (USize.toNat_add m n).trans (Nat.mod_eq_of_lt h)⟩

/-- What is left of a buffer at a position. -/
structure Buffer.RestAt (b : Buffer) (position : USize) (rest : Bytes) : Prop where
  le : position.toNat ≤ b.bytes.length
  drop_eq : b.bytes.drop position.toNat = rest

namespace Buffer.RestAt

variable {b : Buffer} {position position' : USize} {bs rest : Bytes}

theorem length_eq (h : b.RestAt position rest) :
    position.toNat + rest.length = b.bytes.length := by
  have hle := h.le
  rw [← h.drop_eq, List.length_drop]
  omega

theorem start (b : Buffer) : b.RestAt 0 b.bytes :=
  ⟨Nat.zero_le _, rfl⟩

/-- Bytes at the front of what is left lie between their positions. -/
theorem advance (h : b.RestAt position (bs ++ rest))
    (hposition : position'.toNat = position.toNat + bs.length) :
    b.slice? position position' = some bs ∧ b.RestAt position' rest := by
  have hlength := h.length_eq
  rw [List.length_append] at hlength
  refine ⟨?_, ⟨by omega, ?_⟩⟩
  · rw [slice?, if_pos ⟨by omega, by omega⟩, List.drop_take, h.drop_eq, hposition,
      Nat.add_sub_cancel_left, List.take_left]
  · rw [hposition, ← List.drop_drop, h.drop_eq, List.drop_left]

end Buffer.RestAt

/-- Nothing is found up to a position that the buffer does not reach, or one that lies before. -/
theorem Buffer.slice?_eq_none {b : Buffer} {start stop : USize}
    (h : b.bytes.length < stop.toNat ∨ stop.toNat < start.toNat) : b.slice? start stop = none :=
  if_neg (by omega)

namespace Reader

variable {r : Reader} {a : Arithmetic} {b : Buffer} {position : USize} {bs rest : Bytes}
  {e : Element} {elements : List Element} {ending? : Option Ending}

/-! ### One round -/

/-- The header at the front of what is left declares a payload whose end is no machine word. -/
def Overflows (r : Reader) (b : Buffer) (rest : Bytes) : Prop :=
  ∃ header tail length, rest = header ++ tail ∧ header.length = r.headerLength.toNat ∧
    r.payloadLength? header = some length ∧
    USize.size ≤ b.bytes.length - tail.length + length.toNat

theorem next?_header_append {header tail : Bytes} (h : b.RestAt position (header ++ tail))
    (hlength : header.length = r.headerLength.toNat) :
    ∃ start, b.RestAt start tail ∧ r.next? a b position = r.behind? a b header start := by
  have hpos := r.headerLength_pos
  have hsize := b.length_lt
  have hfits := h.length_eq
  rw [List.length_append] at hfits
  obtain ⟨start, hadd, hstart⟩ := a.exists_add? (m := position) (n := r.headerLength) (by omega)
  obtain ⟨hslice, hrest⟩ := h.advance (hstart.trans (by rw [hlength]))
  refine ⟨start, hrest, ?_⟩
  rw [next?, if_neg (by omega), hadd]
  dsimp only
  rw [hslice]

/-- **A complete element is taken**, and a header fits behind it. -/
theorem next?_of_complete (h : r.family.Complete e) (hrest : b.RestAt position (e.bytes ++ rest)) :
    ∃ position', r.next? a b position = some (.ok (e, position')) ∧ b.RestAt position' rest ∧
      position'.toNat + r.headerLength.toNat < USize.size := by
  rw [Element.bytes, List.append_assoc] at hrest
  obtain ⟨start, hstart, hnext⟩ := next?_header_append (a := a) hrest h.length_header
  obtain ⟨length, hdeclared, hlength⟩ := Option.map_eq_some_iff.1 h.payloadLength?_header
  have hsize := b.length_lt
  have hheader : e.header.length = r.headerLength.toNat := h.length_header
  have hfits := hrest.length_eq
  have hfits' := hstart.length_eq
  rw [List.length_append] at hfits hfits'
  obtain ⟨stop, hadd, hstop⟩ := a.exists_add? (m := start) (n := length) (by omega)
  obtain ⟨hslice, hrest'⟩ := hstart.advance (hstop.trans (by rw [hlength]))
  refine ⟨stop, ?_, hrest', by omega⟩
  rw [hnext, behind?, hdeclared]
  dsimp only
  rw [hadd]
  dsimp only
  rw [hslice]

/-- **Where no complete element begins, the scan ends**, unless a checked sum breaks it off. -/
theorem next?_of_stops (h : r.family.Stops rest ending?) (hrest : b.RestAt position rest)
    (hheader : position.toNat + r.headerLength.toNat < USize.size)
    (hsum : a = .wrapping ∨ ¬ r.Overflows b rest) :
    r.next? a b position = some (.error ending?) := by
  have hsize := b.length_lt
  have hfits := hrest.length_eq
  cases h with
  | nothingLeft =>
    rw [List.length_nil] at hfits
    rw [next?, if_pos (by omega)]
  | truncatedHeader _ hne hlt =>
    have hpos := List.length_pos_iff.2 hne
    have hlt' : rest.length < r.headerLength.toNat := hlt
    obtain ⟨start, hadd, hstart⟩ := a.exists_add? hheader
    rw [next?, if_neg (by omega), hadd]
    dsimp only
    rw [Buffer.slice?_eq_none (Or.inl (by omega))]
  | invalidHeader header tail hlength hdeclared =>
    obtain ⟨start, -, hnext⟩ := next?_header_append (a := a) hrest hlength
    rw [hnext, behind?, Option.map_eq_none_iff.1 hdeclared]
  | overrun header tail declared hlength hdeclared hlt =>
    obtain ⟨start, hstart, hnext⟩ := next?_header_append (a := a) hrest hlength
    obtain ⟨length, hword, rfl⟩ := Option.map_eq_some_iff.1 hdeclared
    have hfits' := hstart.length_eq
    obtain ⟨stop, hadd, hslice⟩ :
        ∃ stop, a.add? start length = some stop ∧ b.slice? start stop = none := by
      by_cases hend : start.toNat + length.toNat < USize.size
      · obtain ⟨stop, hadd, hstop⟩ := a.exists_add? hend
        exact ⟨stop, hadd, Buffer.slice?_eq_none (Or.inl (by omega))⟩
      · -- the sum wraps around, to a position before the payload
        rcases hsum with rfl | hsum
        · refine ⟨start + length, rfl, Buffer.slice?_eq_none (Or.inr ?_)⟩
          by_contra hle
          have hsum := Arithmetic.toNat_add?_of_le (a := .wrapping) rfl (Nat.not_lt.1 hle)
          have hlt := (start + length).toNat_lt_size
          omega
        · refine absurd ⟨header, tail, length, rfl, hlength, hword, ?_⟩ hsum
          omega
    rw [hnext, behind?, hword]
    dsimp only
    rw [hadd]
    dsimp only
    rw [hslice]

theorem splitFrom?_of_error (h : r.next? a b position = some (.error ending?)) :
    r.splitFrom? a b position = some ⟨[], b.bytes.drop position.toNat, ending?⟩ := by
  rw [splitFrom?.eq_def]
  split <;> simp_all

theorem splitFrom?_of_ok {position' : USize}
    (h : r.next? a b position = some (.ok (e, position'))) :
    r.splitFrom? a b position = (r.splitFrom? a b position').map fun d =>
      ⟨e :: d.elements, d.rest, d.ending?⟩ := by
  rw [splitFrom?.eq_def]
  split <;> simp_all

/-- **Complete elements in front of a rest** are taken one after the other. -/
theorem splitFrom?_of_complete (h : ∀ e ∈ elements, r.family.Complete e)
    (hrest : b.RestAt position (elements.flatMap Element.bytes ++ rest))
    (hheader : position.toNat + r.headerLength.toNat < USize.size) :
    ∃ position', b.RestAt position' rest ∧
      position'.toNat + r.headerLength.toNat < USize.size ∧
      r.splitFrom? a b position = (r.splitFrom? a b position').map fun d =>
        ⟨elements ++ d.elements, d.rest, d.ending?⟩ := by
  induction elements generalizing position with
  | nil => exact ⟨position, hrest, hheader, Option.map_id'.symm⟩
  | cons e elements ih =>
    rw [List.flatMap_cons, List.append_assoc] at hrest
    obtain ⟨middle, hnext, hmiddle, hfits⟩ := next?_of_complete (a := a) (h e List.mem_cons_self) hrest
    obtain ⟨position', hrest', hheader', hsplit⟩ :=
      ih (fun e' he' => h e' (List.mem_cons_of_mem e he')) hmiddle hfits
    refine ⟨position', hrest', hheader', ?_⟩
    rw [splitFrom?_of_ok hnext, hsplit, Option.map_map]
    rfl

/-- A scan comes to the rest of the division. -/
theorem exists_splitFrom?_eq (h : r.family.Divides b.bytes elements rest) (a : Arithmetic) :
    ∃ position, b.RestAt position rest ∧ position.toNat + r.headerLength.toNat < USize.size ∧
      r.splitFrom? a b 0 = (r.splitFrom? a b position).map fun d =>
        ⟨elements ++ d.elements, d.rest, d.ending?⟩ := by
  have hstart := Buffer.RestAt.start b
  rw [← h.bytes_eq] at hstart
  refine splitFrom?_of_complete h.complete hstart ?_
  rw [USize.toNat_zero, Nat.zero_add]
  exact r.headerLength.toNat_lt_size

/-- **A scanner finds the division of its buffer**, unless a checked sum breaks it off. -/
theorem splitFrom?_eq (h : r.family.Divides b.bytes elements rest)
    (hsum : a = .wrapping ∨ ¬ r.Overflows b rest) :
    r.splitFrom? a b 0 = some (r.family.split b.bytes) := by
  obtain ⟨ending?, hstops⟩ := h.stops
  obtain ⟨position, hrest, hheader, hsplit⟩ := exists_splitFrom?_eq h a
  rw [hsplit, splitFrom?_of_error (next?_of_stops hstops hrest hheader hsum), hrest.drop_eq,
    ← h.bytes_eq, Family.split_append h.complete, Family.split_of_error hstops.next_eq]
  rfl

variable {ι σ : Type}

/-- A scanner reads what is read of the bytes, unless a checked sum breaks it off. -/
theorem scan?_eq (h : r.family.Divides b.bytes elements rest) (read : Element → Except σ ι)
    (hsum : a = .wrapping ∨ ¬ r.Overflows b rest) :
    r.scan? a read b = some (r.family.scan read b.bytes) := by
  rw [scan?, splitFrom?_eq h hsum]
  rfl

/-- **Lengths that two bytes can hold** overflow nothing. -/
theorem scan?_of_short (h : ∀ header length, r.payloadLength? header = some length →
    length.toNat < 65536) (a : Arithmetic) (read : Element → Except σ ι) (b : Buffer) :
    r.scan? a read b = some (r.family.scan read b.bytes) := by
  refine scan?_eq (Family.divides_split r.family b.bytes) read (Or.inr ?_)
  rintro ⟨header, tail, length, -, -, hdeclared, hsum⟩
  have hlength := h header length hdeclared
  have hbytes := b.length_lt
  have hsize : 2 ^ 32 ≤ USize.size := USize.le_size
  omega

end Reader

/-! ### The scanners of the program -/

namespace InformationElement

/-- The reader of information elements. -/
def reader : Reader where
  headerLength := 2
  payloadLength? header := some (header.getD 1 0).toUSize
  headerLength_pos := by simp

theorem family_reader : reader.family = family := by
  simp only [Reader.family, reader, family, Family.mk.injEq]
  exact ⟨USize.toNat_ofNat_of_lt (Nat.lt_of_lt_of_le (by decide) USize.le_size), rfl⟩

/-- **Information elements are scanned as they are divided**, however sums are made. -/
theorem scan?_reader (a : Arithmetic) (b : Buffer) :
    reader.scan? a read b = some (scan b.bytes) := by
  have hshort : ∀ header length, reader.payloadLength? header = some length →
      length.toNat < 65536 := by
    rintro header _ ⟨⟩
    have hlt : (header.getD 1 0).toNat < 256 := (header.getD 1 0).toNat_lt
    rw [UInt8.toNat_toUSize]
    omega
  rw [Reader.scan?_of_short hshort, family_reader]
  rfl

end InformationElement

namespace Service

/-- The reader of service records. -/
def reader : Reader where
  headerLength := 5
  payloadLength? header :=
    let length := Bytes.ofLittleEndian (header.take 2)
    if 3 ≤ length then some (USize.ofNat (length - 3)) else none
  headerLength_pos := by simp

/-- A length that two bytes hold is a machine word. -/
theorem toNat_length (header : Bytes) :
    (USize.ofNat (Bytes.ofLittleEndian (header.take 2) - 3)).toNat =
        Bytes.ofLittleEndian (header.take 2) - 3 ∧
      Bytes.ofLittleEndian (header.take 2) < 65536 := by
  have hlt := Bytes.ofLittleEndian_lt (header.take 2)
  have hpow : 256 ^ (header.take 2).length ≤ 256 ^ 2 :=
    Nat.pow_le_pow_right (by decide) (List.length_take_le 2 header)
  exact ⟨USize.toNat_ofNat_of_lt_32 (by omega), by omega⟩

theorem family_reader : reader.family = family := by
  simp only [Reader.family, reader, family, Family.mk.injEq]
  refine ⟨USize.toNat_ofNat_of_lt (Nat.lt_of_lt_of_le (by decide) USize.le_size), ?_⟩
  funext header
  split_ifs
  · rw [Option.map_some, (toNat_length header).1]
  · rfl

/-- **Service records are scanned as they are divided**, however sums are made. -/
theorem Response.scan?_reader (device : Address) (a : Arithmetic) (b : Buffer) :
    reader.scan? a (Response.read device) b = some (Response.scan device b.bytes) := by
  have hshort : ∀ header length, reader.payloadLength? header = some length →
      length.toNat < 65536 := by
    intro header length h
    obtain ⟨-, hlength⟩ := Option.ite_none_right_eq_some.1 h
    obtain ⟨hnat, hlt⟩ := toNat_length header
    rw [← Option.some.inj hlength, hnat]
    omega
  rw [Reader.scan?_of_short hshort, family_reader]
  rfl

end Service

end WifiDirect
