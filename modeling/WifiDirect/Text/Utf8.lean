import WifiDirect.Bytes

/-!
# UTF-8

Characters as bytes and back. Bytes are read one at a time by a machine that holds at most one
character begun and not finished; where a byte fits no character, `decode` says where and
`lossy` puts a replacement character.
-/

namespace WifiDirect.Utf8

/-- A character that has been begun: `seen` bytes are read, `more` are to come, the next of them
lies from `low` to `high`, and `code` holds the bits so far. -/
structure Pending where
  seen : Nat
  more : Nat
  low : UInt8
  high : UInt8
  code : Nat
  deriving DecidableEq, Repr

/-- What one more byte leads to. -/
inductive Progress
  | char (c : Char)
  | more (p : Pending)
  | bad
  deriving DecidableEq, Repr

/-- The first byte of a character. The range of the second byte leaves out the overlong forms, the
surrogates and what lies above U+10FFFF. -/
def start (b : UInt8) : Progress :=
  if b < 0x80 then .char (Char.ofNat b.toNat)
  else if b < 0xC2 then .bad
  else if b < 0xE0 then .more ⟨1, 1, 0x80, 0xBF, b.toNat - 0xC0⟩
  else if b = 0xE0 then .more ⟨1, 2, 0xA0, 0xBF, 0⟩
  else if b = 0xED then .more ⟨1, 2, 0x80, 0x9F, 0xD⟩
  else if b < 0xF0 then .more ⟨1, 2, 0x80, 0xBF, b.toNat - 0xE0⟩
  else if b = 0xF0 then .more ⟨1, 3, 0x90, 0xBF, 0⟩
  else if b < 0xF4 then .more ⟨1, 3, 0x80, 0xBF, b.toNat - 0xF0⟩
  else if b = 0xF4 then .more ⟨1, 3, 0x80, 0x8F, 4⟩
  else .bad

/-- A later byte of a character. -/
def Pending.feed (p : Pending) (b : UInt8) : Progress :=
  if p.low ≤ b ∧ b ≤ p.high then
    let code := p.code * 64 + (b.toNat - 0x80)
    if p.more ≤ 1 then .char (Char.ofNat code)
    else .more ⟨p.seen + 1, p.more - 1, 0x80, 0xBF, code⟩
  else .bad

/-- Why bytes are no UTF-8: at `index`, where a character begins, stand `length` bytes that begin
none, or the bytes end (`none`). -/
structure Error where
  index : Nat
  length : Option Nat
  deriving DecidableEq, Repr

/-- The error in words. -/
def Error.message (e : Error) : String :=
  match e.length with
  | some n => s!"invalid utf-8 sequence of {n} bytes from index {e.index}"
  | none => s!"incomplete utf-8 byte sequence from index {e.index}"

/-- Reads on at `index` with `pending` begun before it and `done` read, last character first. -/
def decodeFrom (index : Nat) (pending : Option Pending) (done : List Char) :
    Bytes → Except Error (List Char)
  | [] =>
    match pending with
    | none => .ok done.reverse
    | some _ => .error ⟨index, none⟩
  | b :: bs =>
    match pending with
    | none =>
      match start b with
      | .char c => decodeFrom (index + 1) none (c :: done) bs
      | .more p => decodeFrom index (some p) done bs
      | .bad => .error ⟨index, some 1⟩
    | some p =>
      match p.feed b with
      | .char c => decodeFrom (index + p.seen + 1) none (c :: done) bs
      | .more p => decodeFrom index (some p) done bs
      | .bad => .error ⟨index, some p.seen⟩

/-- **The characters of well-formed bytes**, or the first place where they are not well-formed. -/
def decode (bs : Bytes) : Except Error (List Char) :=
  decodeFrom 0 none [] bs

/-- The replacement character. -/
def replacement : Char := '\ufffd'

/-- Reads on after `progress`; `rest` reads what follows. -/
def Progress.andThen (progress : Progress) (rest : Option Pending → List Char) : List Char :=
  match progress with
  | .char c => c :: rest none
  | .more p => rest (some p)
  | .bad => replacement :: rest none

/-- Reads on with `pending` begun, one replacement character for each stretch that begins a
character and does not finish it. -/
def lossyFrom (pending : Option Pending) : Bytes → List Char
  | [] => if pending.isSome then [replacement] else []
  | b :: bs =>
    match pending with
    | none => (start b).andThen fun next => lossyFrom next bs
    | some p =>
      match p.feed b with
      | .bad => replacement :: (start b).andThen fun next => lossyFrom next bs
      | progress => progress.andThen fun next => lossyFrom next bs

/-- The characters of the bytes, with replacement characters where they are not well-formed. -/
def lossy (bs : Bytes) : List Char :=
  lossyFrom none bs

/-- The bytes of characters. -/
def encode (cs : List Char) : Bytes :=
  cs.flatMap String.utf8EncodeChar

/-- The text of well-formed bytes. -/
def text (bs : Bytes) : Except Error String :=
  (decode bs).map String.ofList

/-- The text of any bytes. -/
def lossyText (bs : Bytes) : String :=
  String.ofList (lossy bs)

/-- The bytes of a text. -/
def bytes (s : String) : Bytes :=
  s.toByteArray.data.toList

theorem bytes_eq_encode (s : String) : bytes s = encode s.toList := by
  obtain ⟨cs, rfl⟩ : ∃ cs, s = String.ofList cs := ⟨s.toList, String.ofList_toList.symm⟩
  simp [bytes, encode, String.toByteArray_ofList, List.utf8Encode]

@[simp] theorem encode_nil : encode [] = [] := rfl

@[simp] theorem encode_append (cs ds : List Char) : encode (cs ++ ds) = encode cs ++ encode ds := by
  simp [encode]

end WifiDirect.Utf8
