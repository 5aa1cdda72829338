import WifiDirect.Bytes
import WifiDirect.Log

/-!
# Elements

A buffer is a run of elements, each a header of fixed length and the payload whose length the header
declares. `Family.split` takes elements off the front as long as there is a complete one; nothing is
lost (`Family.bytes_split`). `Family.scan` reads the elements and notes those that it passes over
and what ended the run.

Lengths are numbers of any size here. A scanner that keeps them in machine words is a `Reader`.
-/

namespace WifiDirect

/-- How the elements of one kind are delimited, by lengths of any size. -/
structure Family where
  /-- The length of a header. -/
  headerLength : Nat
  /-- The payload length that a header declares, if the header is valid. -/
  payloadLength? : Bytes → Option Nat
  headerLength_pos : 0 < headerLength

/-- A complete element. -/
structure Element where
  header : Bytes
  payload : Bytes
  deriving DecidableEq, Repr

/-- The bytes of an element. -/
def Element.bytes (e : Element) : Bytes := e.header ++ e.payload

/-- The header byte at an index. -/
def Element.headerByte (e : Element) (i : Nat) : UInt8 := e.header.getD i 0

/-- Why a run of elements goes no further although bytes are left. -/
inductive Ending
  /-- Fewer bytes are left than a header has. -/
  | truncatedHeader
  /-- The next header is not valid. -/
  | invalidHeader
  /-- The next payload is declared longer than what is left. -/
  | overrun (declared : Nat)
  deriving DecidableEq, Repr

/-- A buffer as its complete elements and what is left after them, with no ending where nothing
is. -/
structure Decomposition where
  elements : List Element
  rest : Bytes
  ending? : Option Ending
  deriving DecidableEq, Repr

/-- The number of bytes before the rest. -/
def Decomposition.offset (d : Decomposition) : Nat :=
  (d.elements.flatMap fun e => e.bytes).length

namespace Family

/-- The element at the front and what follows it, or why there is none. -/
def next (f : Family) (bs : Bytes) : Except (Option Ending) (Element × Bytes) :=
  if bs = [] then .error none
  else
    match bs.splitExact f.headerLength with
    | none => .error (some .truncatedHeader)
    | some (header, rest) =>
      match f.payloadLength? header with
      | none => .error (some .invalidHeader)
      | some length =>
        match rest.splitExact length with
        | none => .error (some (.overrun length))
        | some (payload, rest) => .ok (⟨header, payload⟩, rest)

theorem next_eq_ok {f : Family} {bs rest : Bytes} {e : Element} (h : f.next bs = .ok (e, rest)) :
    bs = e.bytes ++ rest ∧ e.header.length = f.headerLength ∧
      f.payloadLength? e.header = some e.payload.length := by
  unfold next at h
  split at h
  · simp at h
  split at h
  · simp at h
  rename_i header rest' hsplit
  split at h
  · simp at h
  rename_i length hlength
  split at h
  · simp at h
  rename_i payload rest'' hsplit'
  simp only [Except.ok.injEq, Prod.mk.injEq] at h
  obtain ⟨rfl, rfl⟩ := h
  obtain ⟨hl, rfl⟩ := Bytes.splitExact_eq_some_iff.1 hsplit
  obtain ⟨hl', rfl⟩ := Bytes.splitExact_eq_some_iff.1 hsplit'
  exact ⟨by simp [Element.bytes], hl, by rw [hlength, hl']⟩

/-- An element takes at least its header. -/
theorem length_lt_of_next {f : Family} {bs rest : Bytes} {e : Element}
    (h : f.next bs = .ok (e, rest)) : rest.length < bs.length := by
  obtain ⟨rfl, hheader, -⟩ := next_eq_ok h
  have := f.headerLength_pos
  simp only [Element.bytes, List.length_append]
  omega

/-- **The complete elements at the front of a buffer.** -/
def split (f : Family) (bs : Bytes) : Decomposition :=
  match _h : f.next bs with
  | .error ending? => ⟨[], bs, ending?⟩
  | .ok (e, rest) =>
    let d := f.split rest
    ⟨e :: d.elements, d.rest, d.ending?⟩
  termination_by bs.length
  decreasing_by exact length_lt_of_next _h

theorem split_of_error {f : Family} {bs : Bytes} {ending? : Option Ending}
    (h : f.next bs = .error ending?) : f.split bs = ⟨[], bs, ending?⟩ := by
  rw [split]
  split <;> simp_all

theorem split_of_ok {f : Family} {bs rest : Bytes} {e : Element} (h : f.next bs = .ok (e, rest)) :
    f.split bs = ⟨e :: (f.split rest).elements, (f.split rest).rest, (f.split rest).ending?⟩ := by
  rw [split]
  split <;> simp_all

/-- **No byte is lost.** -/
theorem bytes_split (f : Family) (bs : Bytes) :
    (f.split bs).elements.flatMap Element.bytes ++ (f.split bs).rest = bs := by
  fun_induction split f bs with
  | case1 bs ending? h => simp
  | case2 bs e rest h d ih =>
    rw [(next_eq_ok h).1, List.flatMap_cons, List.append_assoc, ih]

end Family

/-! ### Reading elements -/

/-- A note on a run of elements. `σ` says why an element is passed over. -/
inductive Note (σ : Type)
  | skipped (why : σ)
  | ended (offset : Nat) (ending : Ending)
  deriving DecidableEq, Repr

/-- What reading a run of elements gives. -/
structure Scan (ι σ : Type) where
  items : List ι
  notes : List (Note σ)
  deriving DecidableEq, Repr

/-- The note on the end of a run, unless nothing is left. -/
def Decomposition.endNotes {σ : Type} (d : Decomposition) : List (Note σ) :=
  d.ending?.toList.map (.ended d.offset)

/-- **Reads the elements of a buffer in order.** -/
def Decomposition.scan {ι σ : Type} (d : Decomposition) (read : Element → Except σ ι) :
    Scan ι σ where
  items := d.elements.filterMap fun e =>
    match read e with
    | .ok item => some item
    | .error _ => none
  notes := (d.elements.filterMap fun e =>
    match read e with
    | .ok _ => none
    | .error why => some (.skipped why)) ++ d.endNotes

/-- Reads the complete elements at the front of a buffer. -/
def Family.scan {ι σ : Type} (f : Family) (read : Element → Except σ ι) (bs : Bytes) : Scan ι σ :=
  (f.split bs).scan read

/-- The record of a run's end. -/
def Ending.record (offset : Nat) : Ending → LogRecord
  | .truncatedHeader => ⟨.trace, "truncated element header", [("offset", .int offset)]⟩
  | .invalidHeader => ⟨.trace, "invalid element header", [("offset", .int offset)]⟩
  | .overrun declared =>
    ⟨.trace, "element overruns buffer", [("offset", .int offset), ("declared", .int declared)]⟩

/-- The record of a note, given that of passing over an element. -/
def Note.record {σ : Type} (skipRecord : σ → LogRecord) : Note σ → LogRecord
  | .skipped why => skipRecord why
  | .ended offset ending => ending.record offset

end WifiDirect
