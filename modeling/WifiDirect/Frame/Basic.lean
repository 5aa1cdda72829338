import WifiDirect.Layout.Basic

/-!
# Frames

A value on its way between processes: the length of its payload in four bytes, and the payload.
`Frame.read` takes a frame off the front of a buffer and looks at nothing behind it; a frame takes
at least its length prefix and at most the buffer (`size_of_read`).
-/

namespace WifiDirect

/-- The value of a frame and the number of bytes that the frame takes. -/
structure Frame (α : Type) where
  value : α
  size : Nat
  deriving DecidableEq, Repr

namespace Frame

/-- Why there is no frame. -/
inductive Problem
  /-- The buffer ends before the frame does. -/
  | needMore
  /-- The payload is longer than frames may be. -/
  | tooLarge
  /-- The payload writes no value. -/
  | badPayload (fault : Fault)
  deriving DecidableEq, Repr

/-- The problem in words. -/
def Problem.message : Problem → String
  | .needMore => "need more bytes"
  | .tooLarge => "frame too large"
  | .badPayload fault => "decode error: " ++ fault.message

/-- The length of the prefix. -/
def prefixLength : Nat := 4

/-- The most bytes that a payload may have. -/
def maxPayload : Nat := 16 * 1024 * 1024

variable {α : Type}

/-- **The frame of a value.** -/
def encode (l : Layout α) (a : α) : Except Problem Bytes :=
  let payload := l.encode a
  let length := payload.length
  if maxPayload < length then .error .tooLarge
  else .ok (Bytes.littleEndian prefixLength length ++ payload)

/-- **The frame at the front of a buffer.** Bytes of the payload behind the value are passed over. -/
def read (l : Layout α) (bs : Bytes) : Except Problem (Frame α) :=
  match bs.splitExact prefixLength with
  | none => .error .needMore
  | some (front, rest) =>
    let length := front.ofLittleEndian
    if maxPayload < length then .error .tooLarge
    else
      match rest.splitExact length with
      | none => .error .needMore
      | some (payload, _) =>
        match l.decode payload with
        | .ok (value, _) => .ok ⟨value, prefixLength + length⟩
        | .error fault => .error (.badPayload fault)

theorem size_of_read {l : Layout α} {bs : Bytes} {frame : Frame α} (h : read l bs = .ok frame) :
    prefixLength ≤ frame.size ∧ frame.size ≤ bs.length := by
  unfold read at h
  split at h
  · simp at h
  rename_i front rest hfront
  dsimp only at h
  split at h
  · simp at h
  split at h
  · simp at h
  rename_i payload rest' hpayload
  split at h
  · rw [Except.ok.injEq] at h
    subst h
    obtain ⟨hfront, rfl⟩ := Bytes.splitExact_eq_some_iff.1 hfront
    obtain ⟨hpayload, rfl⟩ := Bytes.splitExact_eq_some_iff.1 hpayload
    simp only [List.length_append]
    omega
  · simp at h

end Frame

end WifiDirect
