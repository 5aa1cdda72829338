import WifiDirect.Element.Basic

/-!
# Scanning with machine words

A scanner goes through a buffer by positions that are machine words. To these it adds lengths that
are machine words as well, and a payload may be declared so long that the sum is none. Such a sum
wraps around, or it breaks the scan off where sums are checked (`Arithmetic`).

A position that has wrapped around lies before the one that was added to, so that no bytes are
found between the two (`Arithmetic.toNat_add?_of_le`).
-/

namespace WifiDirect

/-! ### Sums of machine words -/

/-- What becomes of a sum of machine words that is none itself. -/
inductive Arithmetic
  /-- It wraps around. -/
  | wrapping
  /-- It breaks off what is being done. -/
  | checked
  deriving DecidableEq, Repr

/-- The sum of two machine words, unless it breaks off. -/
def Arithmetic.add? : Arithmetic → USize → USize → Option USize
  | .wrapping, m, n => some (m + n)
  | .checked, m, n => if m.toNat + n.toNat < USize.size then some (m + n) else none

theorem Arithmetic.eq_add_of_add? {a : Arithmetic} {m n sum : USize} (h : a.add? m n = some sum) :
    sum = m + n := by
  cases a with
  | wrapping => exact (Option.some.inj h).symm
  | checked =>
    obtain ⟨-, hsum⟩ := Option.ite_none_right_eq_some.1 h
    exact (Option.some.inj hsum).symm

/-- **A sum that is not below the first of the words has not wrapped around.** -/
theorem Arithmetic.toNat_add?_of_le {a : Arithmetic} {m n sum : USize}
    (h : a.add? m n = some sum) (hle : m.toNat ≤ sum.toNat) :
    sum.toNat = m.toNat + n.toNat := by
  have hm := m.toNat_lt_size
  have hn := n.toNat_lt_size
  have hsum : sum.toNat = (m.toNat + n.toNat) % USize.size := by
    rw [eq_add_of_add? h]
    exact USize.toNat_add m n
  by_cases hlt : m.toNat + n.toNat < USize.size
  · rw [hsum, Nat.mod_eq_of_lt hlt]
  · rw [Nat.mod_eq_sub_mod (by omega), Nat.mod_eq_of_lt (by omega)] at hsum
    omega

/-! ### Buffers -/

/-- Bytes in memory, which are fewer than half of the machine words. -/
structure Buffer where
  bytes : Bytes
  length_lt : 2 * bytes.length < USize.size

/-- The bytes from one position to another, if these are in order and the buffer reaches so far. -/
def Buffer.slice? (b : Buffer) (start stop : USize) : Option Bytes :=
  if start.toNat ≤ stop.toNat ∧ stop.toNat ≤ b.bytes.length then
    some ((b.bytes.take stop.toNat).drop start.toNat)
  else none

theorem Buffer.of_slice? {b : Buffer} {start stop : USize} {bs : Bytes}
    (h : b.slice? start stop = some bs) :
    start.toNat ≤ stop.toNat ∧ stop.toNat ≤ b.bytes.length :=
  (Option.ite_none_right_eq_some.1 h).1

/-! ### Readers -/

/-- How the elements of one kind are delimited, in machine words. -/
structure Reader where
  /-- The length of a header. -/
  headerLength : USize
  /-- The payload length that a header declares, if the header is valid. -/
  payloadLength? : Bytes → Option USize
  headerLength_pos : 0 < headerLength.toNat

namespace Reader

variable {r : Reader} {a : Arithmetic} {b : Buffer} {position position' : USize}

/-- The elements that a reader delimits. -/
def family (r : Reader) : Family where
  headerLength := r.headerLength.toNat
  payloadLength? header := (r.payloadLength? header).map USize.toNat
  headerLength_pos := r.headerLength_pos

/-- The element whose header ends at a position, and the position behind it, or why there is none.
Nothing at all if the sum breaks off. -/
def behind? (r : Reader) (a : Arithmetic) (b : Buffer) (header : Bytes) (start : USize) :
    Option (Except (Option Ending) (Element × USize)) :=
  match r.payloadLength? header with
  | none => some (.error (some .invalidHeader))
  | some length =>
    match a.add? start length with
    | none => none
    | some stop =>
      match b.slice? start stop with
      | none => some (.error (some (.overrun length.toNat)))
      | some payload => some (.ok (⟨header, payload⟩, stop))

/-- The element at a position and the position behind it, or why there is none. Nothing at all if a
sum breaks off. -/
def next? (r : Reader) (a : Arithmetic) (b : Buffer) (position : USize) :
    Option (Except (Option Ending) (Element × USize)) :=
  if b.bytes.length ≤ position.toNat then some (.error none)
  else
    match a.add? position r.headerLength with
    | none => none
    | some start =>
      match b.slice? position start with
      | none => some (.error (some .truncatedHeader))
      | some header => r.behind? a b header start

theorem le_of_behind? {header : Bytes} {start : USize} {e : Element}
    (h : r.behind? a b header start = some (.ok (e, position'))) :
    start.toNat ≤ position'.toNat ∧ position'.toNat ≤ b.bytes.length := by
  unfold behind? at h
  split at h
  · cases h
  split at h
  · cases h
  split at h
  · cases h
  rename_i payload hpayload
  cases h
  exact Buffer.of_slice? hpayload

/-- **Every element moves the position on**, but not past the end of the buffer. -/
theorem lt_of_next? {e : Element} (h : r.next? a b position = some (.ok (e, position'))) :
    position.toNat < position'.toNat ∧ position'.toNat ≤ b.bytes.length := by
  unfold next? at h
  split at h
  · cases h
  split at h
  · cases h
  rename_i start hstart
  split at h
  · cases h
  rename_i header hheader
  have hsum := Arithmetic.toNat_add?_of_le hstart (Buffer.of_slice? hheader).1
  have hbehind := le_of_behind? h
  have hpos := r.headerLength_pos
  omega

/-- The complete elements from a position on, unless a sum breaks off. -/
def splitFrom? (r : Reader) (a : Arithmetic) (b : Buffer) (position : USize) :
    Option Decomposition :=
  match _h : r.next? a b position with
  | none => none
  | some (.error ending?) => some ⟨[], b.bytes.drop position.toNat, ending?⟩
  | some (.ok (e, position')) =>
    (r.splitFrom? a b position').map fun d => ⟨e :: d.elements, d.rest, d.ending?⟩
  termination_by b.bytes.length - position.toNat
  decreasing_by
    have := lt_of_next? _h
    omega

/-- **Reads the elements of a buffer in order**, unless a sum breaks off. -/
def scan? {ι σ : Type} (r : Reader) (a : Arithmetic) (read : Element → Except σ ι) (b : Buffer) :
    Option (Scan ι σ) :=
  (r.splitFrom? a b 0).map fun d => d.scan read

end Reader

end WifiDirect
