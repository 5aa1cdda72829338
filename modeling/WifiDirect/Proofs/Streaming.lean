import WifiDirect.Proofs.Frames
import WifiDirect.Frame.Stream

/-!
# Streams do not depend on their chunks

`Frame.streams_layouts`: however a stream is cut into chunks, the same frames are taken off it and
the same problem stops this. Each frame takes at least five bytes, no byte is lost, and what waits
for the next chunk is shorter than the longest frame.

Only `needMore` is taken back when bytes are added (`read_append`), and from this it follows for one
buffer (`drain_append`) and then for the chunks one after the other (`batches_eq_drain`).
-/

namespace WifiDirect.Frame

variable {α : Type} {l : Layout α}

/-! ### One frame -/

/-- What is read without waiting is not changed by more bytes. -/
theorem read_append {bs : Bytes} (h : read l bs ≠ .error .needMore) (more : Bytes) :
    read l (bs ++ more) = read l bs := by
  cases front bs with
  | noPrefix _ hshort => exact absurd (read_of_noPrefix hshort) h
  | tooLarge length rest hlt hlarge =>
    rw [List.append_assoc, read_of_tooLarge hlt hlarge, read_of_tooLarge hlt hlarge]
  | noPayload length rest hle hrest => exact absurd (read_of_noPayload hle hrest) h
  | whole payload tail hle =>
    rw [List.append_assoc, List.append_assoc, read_of_whole hle, read_of_whole hle]

/-- A buffer that waits for more is shorter than the longest frame. -/
theorem length_lt_of_needMore {bs : Bytes} (h : read l bs = .error .needMore) :
    bs.length < prefixLength + maxPayload := by
  cases front bs with
  | noPrefix _ hshort => omega
  | tooLarge length rest hlt hlarge =>
    rw [read_of_tooLarge hlt hlarge] at h
    cases h
  | noPayload length rest hle hrest =>
    rw [List.length_append, Bytes.length_littleEndian]
    omega
  | whole payload tail hle =>
    rw [read_of_whole hle] at h
    split at h <;> cases h

/-- A frame takes a byte more than its prefix, if nothing is read from no byte. -/
theorem prefixLength_lt_size (hnil : ∀ parsed, l.decode [] ≠ .ok parsed) {bs : Bytes}
    {frame : Frame α} (h : read l bs = .ok frame) : prefixLength < frame.size := by
  obtain ⟨payload, tail, spare, -, rfl, hdecode, hsize⟩ := read_eq_ok_iff.1 h
  have hpos : 0 < payload.length := by
    rw [List.length_pos_iff]
    rintro rfl
    exact hnil _ hdecode
  omega

/-! ### One buffer -/

/-- What is left of a buffer is what stopped the frames. -/
theorem read_rest (bs : Bytes) : read l (drain l bs).rest = .error (drain l bs).stop := by
  induction bs using drain.induct (l := l) with
  | case1 bs stop h => rw [drain_of_error h, h]
  | case2 bs frame h ih => rw [drain_of_ok h, ih]

/-- No byte of a buffer is lost. -/
theorem sum_size_drain (bs : Bytes) :
    ((drain l bs).frames.map Frame.size).sum + (drain l bs).rest.length = bs.length := by
  induction bs using drain.induct (l := l) with
  | case1 bs stop h =>
    rw [drain_of_error h, List.map_nil, List.sum_nil, Nat.zero_add]
  | case2 bs frame h ih =>
    have hsize := size_of_read h
    rw [List.length_drop] at ih
    rw [drain_of_ok h, List.map_cons, List.sum_cons]
    dsimp only
    omega

/-- A buffer has at most a fifth as many frames as bytes. -/
theorem length_frames_drain (hnil : ∀ parsed, l.decode [] ≠ .ok parsed) (bs : Bytes) :
    5 * (drain l bs).frames.length + (drain l bs).rest.length ≤ bs.length := by
  induction bs using drain.induct (l := l) with
  | case1 bs stop h =>
    rw [drain_of_error h]
    show 5 * 0 + bs.length ≤ bs.length
    omega
  | case2 bs frame h ih =>
    have hlt : 4 < frame.size := prefixLength_lt_size hnil h
    have hle := (size_of_read h).2
    rw [List.length_drop] at ih
    rw [drain_of_ok h, List.length_cons]
    dsimp only
    omega

/-- **More bytes behind a buffer**: the frames that it has stay, and if they stopped for want of
bytes, more are taken off what is left. -/
theorem drain_append (bs more : Bytes) :
    drain l (bs ++ more) =
      if (drain l bs).stop = .needMore then
        ⟨(drain l bs).frames ++ (drain l ((drain l bs).rest ++ more)).frames,
          (drain l ((drain l bs).rest ++ more)).stop, (drain l ((drain l bs).rest ++ more)).rest⟩
      else ⟨(drain l bs).frames, (drain l bs).stop, (drain l bs).rest ++ more⟩ := by
  induction bs using drain.induct (l := l) with
  | case1 bs stop h =>
    rw [drain_of_error h]
    split
    · rfl
    · rename_i hstop
      have happend : read l (bs ++ more) = .error stop := by
        rw [read_append (by rw [h]; exact fun he => hstop (by injection he)), h]
      rw [drain_of_error happend]
  | case2 bs frame h ih =>
    have hdrop : (bs ++ more).drop frame.size = bs.drop frame.size ++ more :=
      List.drop_append_of_le_length (size_of_read h).2
    have happend : read l (bs ++ more) = .ok frame := by
      rw [read_append (by rw [h]; exact nofun), h]
    rw [drain_of_ok happend, hdrop, ih, drain_of_ok h]
    dsimp only
    split <;> rfl

/-! ### All chunks -/

/-- **The chunks of a stream come to the stream in one piece.** -/
theorem batches_eq_drain (waiting chunk : Bytes) (chunks : List Bytes) :
    (batches l waiting (chunk :: chunks)).flatMap Batch.frames =
        (drain l (waiting ++ (chunk :: chunks).flatten)).frames ∧
      (batches l waiting (chunk :: chunks)).getLast?.map Batch.stop =
        some (drain l (waiting ++ (chunk :: chunks).flatten)).stop := by
  induction chunks generalizing waiting chunk with
  | nil => simp [batches]
  | cons next chunks ih =>
    rw [List.flatten_cons, ← List.append_assoc, drain_append, batches]
    split
    · obtain ⟨hframes, hstop⟩ := ih (drain l (waiting ++ chunk)).rest next
      rw [List.flatMap_cons, hframes, List.getLast?_cons_of_ne_nil (by simp [batches])]
      exact ⟨rfl, hstop⟩
    · exact ⟨by simp, rfl⟩

/-- No byte of the chunks is lost, and what is left after one of them stopped its frames. -/
theorem sum_size_batches {waiting : Bytes} {chunks : List Bytes} {k : Nat} {batch : Batch α}
    (h : (batches l waiting chunks)[k]? = some batch) :
    ((((batches l waiting chunks).take (k + 1)).flatMap Batch.frames).map Frame.size).sum +
        batch.rest.length = waiting.length + ((chunks.take (k + 1)).flatten).length ∧
      read l batch.rest = .error batch.stop := by
  induction chunks generalizing waiting k with
  | nil => simp [batches] at h
  | cons chunk chunks ih =>
    have hsum := sum_size_drain (l := l) (waiting ++ chunk)
    rw [List.length_append] at hsum
    rw [batches] at h ⊢
    cases k with
    | zero =>
      rw [List.getElem?_cons_zero, Option.some.injEq] at h
      subst h
      refine ⟨?_, read_rest _⟩
      simpa using hsum
    | succ k =>
      rw [List.getElem?_cons_succ] at h
      split at h
      · rename_i hstop
        obtain ⟨hrest, hread⟩ := ih h
        refine ⟨?_, hread⟩
        rw [if_pos hstop, List.take_succ_cons, List.take_succ_cons, List.flatMap_cons,
          List.map_append, List.sum_append, List.flatten_cons, List.length_append]
        omega
      · simp at h

/-- How the frames of a layout are taken off a stream. -/
structure Streams (l : Layout α) : Prop where
  /-- The frames are those of the stream in one piece. -/
  frames_eq : ∀ chunks, chunks ≠ [] →
    (batches l [] chunks).flatMap Batch.frames =
      (batches l [] [chunks.flatten]).flatMap Batch.frames
  /-- What stops is what stops the stream in one piece. -/
  stop_eq : ∀ chunks, chunks ≠ [] →
    (batches l [] chunks).getLast?.map Batch.stop =
      (batches l [] [chunks.flatten]).getLast?.map Batch.stop
  /-- A frame takes at least five bytes, and no more than there are. -/
  size_of_read : ∀ bs frame, read l bs = .ok frame → 5 ≤ frame.size ∧ frame.size ≤ bs.length
  /-- So there are at most a fifth as many frames as bytes. -/
  length_frames : ∀ bs, 5 * (drain l bs).frames.length + (drain l bs).rest.length ≤ bs.length
  /-- After each chunk, the bytes of the frames and those that are left are the bytes that came. -/
  sum_size : ∀ (chunks : List Bytes) (k : Nat) (batch : Batch α),
    (batches l [] chunks)[k]? = some batch →
    ((((batches l [] chunks).take (k + 1)).flatMap Batch.frames).map Frame.size).sum +
      batch.rest.length = ((chunks.take (k + 1)).flatten).length
  /-- What is left after a chunk begins with no frame. -/
  read_rest : ∀ (chunks : List Bytes) (k : Nat) (batch : Batch α),
    (batches l [] chunks)[k]? = some batch → read l batch.rest = .error batch.stop
  /-- What waits for the next chunk is shorter than the longest frame. -/
  length_rest_lt : ∀ (chunks : List Bytes) (k : Nat) (batch : Batch α),
    (batches l [] chunks)[k]? = some batch →
    batch.stop = .needMore → batch.rest.length < prefixLength + maxPayload

theorem streams (hnil : ∀ parsed, l.decode [] ≠ .ok parsed) : Streams l where
  frames_eq chunks hne := by
    obtain ⟨chunk, chunks, rfl⟩ := List.exists_cons_of_ne_nil hne
    rw [(batches_eq_drain [] chunk chunks).1, (batches_eq_drain [] _ []).1]
    simp
  stop_eq chunks hne := by
    obtain ⟨chunk, chunks, rfl⟩ := List.exists_cons_of_ne_nil hne
    rw [(batches_eq_drain [] chunk chunks).2, (batches_eq_drain [] _ []).2]
    simp
  size_of_read bs frame h := ⟨prefixLength_lt_size hnil h, (Frame.size_of_read h).2⟩
  length_frames := length_frames_drain hnil
  sum_size chunks k batch h := by
    rw [(sum_size_batches h).1, List.length_nil, Nat.zero_add]
  read_rest chunks k batch h := (sum_size_batches h).2
  length_rest_lt chunks k batch h hstop := by
    have hread := (sum_size_batches h).2
    rw [hstop] at hread
    exact length_lt_of_needMore hread

/-- **However a stream is cut, the same frames are taken off it.** -/
theorem streams_layouts :
    Streams Notification.layout ∧ Streams Event.layout ∧ Streams Layout.address :=
  ⟨streams fun _ => nofun, streams fun _ => nofun, streams fun _ => nofun⟩

/-- A cut may go through the prefix of a frame. -/
theorem streams_findStopped :
    (batches Event.layout [] [[4, 0], [0, 0, 2, 0], [0, 0, 9]]).flatMap Batch.frames =
      (batches Event.layout [] [[4, 0, 0, 0, 2, 0, 0, 0, 9]]).flatMap Batch.frames :=
  streams_layouts.2.1.frames_eq [[4, 0], [0, 0, 2, 0], [0, 0, 9]] nofun

end WifiDirect.Frame
