import WifiDirect.Frame.Basic

/-!
# Streams of frames

Frames that arrive in chunks. Each chunk is put behind the bytes that wait, and frames are taken off
the front until there is none. Only a frame that is not complete yet is worth waiting for.
-/

namespace WifiDirect.Frame

variable {α : Type}

/-- The frames at the front of a buffer, why there are no more, and the bytes that are left. -/
structure Batch (α : Type) where
  frames : List (Frame α)
  stop : Problem
  rest : Bytes
  deriving DecidableEq, Repr

/-- **Takes all frames off the front of a buffer.** -/
def drain (l : Layout α) (bs : Bytes) : Batch α :=
  match _h : read l bs with
  | .error stop => ⟨[], stop, bs⟩
  | .ok frame =>
    let batch := drain l (bs.drop frame.size)
    ⟨frame :: batch.frames, batch.stop, batch.rest⟩
  termination_by bs.length
  decreasing_by
    have := size_of_read _h
    simp only [prefixLength] at this
    simp only [List.length_drop]
    omega

theorem drain_of_error {l : Layout α} {bs : Bytes} {stop : Problem} (h : read l bs = .error stop) :
    drain l bs = ⟨[], stop, bs⟩ := by
  rw [drain]
  split <;> simp_all

theorem drain_of_ok {l : Layout α} {bs : Bytes} {frame : Frame α} (h : read l bs = .ok frame) :
    drain l bs = ⟨frame :: (drain l (bs.drop frame.size)).frames,
      (drain l (bs.drop frame.size)).stop, (drain l (bs.drop frame.size)).rest⟩ := by
  rw [drain]
  split <;> simp_all

/-- **One batch for each chunk**, up to the first that ends otherwise than by waiting. -/
def batches (l : Layout α) (waiting : Bytes) : List Bytes → List (Batch α)
  | [] => []
  | chunk :: chunks =>
    let batch := drain l (waiting ++ chunk)
    batch :: if batch.stop = .needMore then batches l batch.rest chunks else []

end WifiDirect.Frame
