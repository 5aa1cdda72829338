import WifiDirect.Proofs.WrittenForms
import WifiDirect.Frame.Basic

/-!
# Frames are read back

`Frame.roundTrip_layouts`: a value has a frame exactly if its payload is not too long, and the frame
is read back whatever follows it. `Frame.canonical_layouts`: what is read from a frame has a frame
that is no longer, and a notification is read from no payload but its own.

What a buffer is read as depends on what stands at its front, for which there are four cases
(`Frame.front`).
-/

namespace WifiDirect.Frame

variable {α : Type} {l : Layout α}

/-! ### The front of a buffer -/

/-- What stands at the front of a buffer. -/
inductive Front : Bytes → Prop
  /-- The buffer ends before the prefix does. -/
  | noPrefix (bs : Bytes) (h : bs.length < prefixLength) : Front bs
  /-- The prefix announces more than a payload may have. -/
  | tooLarge (length : Nat) (rest : Bytes) (hlt : length < 256 ^ prefixLength)
      (h : maxPayload < length) : Front (Bytes.littleEndian prefixLength length ++ rest)
  /-- The buffer ends before the payload does. -/
  | noPayload (length : Nat) (rest : Bytes) (h : length ≤ maxPayload)
      (hrest : rest.length < length) : Front (Bytes.littleEndian prefixLength length ++ rest)
  /-- There is a whole payload. -/
  | whole (payload tail : Bytes) (h : payload.length ≤ maxPayload) :
      Front (Bytes.littleEndian prefixLength payload.length ++ (payload ++ tail))

theorem front (bs : Bytes) : Front bs := by
  cases hsplit : bs.splitExact prefixLength with
  | none => exact .noPrefix bs (Bytes.splitExact_eq_none_iff.1 hsplit)
  | some parts =>
    obtain ⟨word, rest⟩ := parts
    obtain ⟨hword, rfl⟩ := Bytes.splitExact_eq_some_iff.1 hsplit
    have hlt := Bytes.ofLittleEndian_lt word
    rw [← Bytes.littleEndian_ofLittleEndian word, hword]
    rw [hword] at hlt
    by_cases hlarge : maxPayload < word.ofLittleEndian
    · exact .tooLarge _ rest hlt hlarge
    by_cases hrest : rest.length < word.ofLittleEndian
    · exact .noPayload _ rest (by omega) hrest
    have hpayload : (rest.take word.ofLittleEndian).length = word.ofLittleEndian := by
      rw [List.length_take]
      omega
    have hwhole := Front.whole (rest.take word.ofLittleEndian) (rest.drop word.ofLittleEndian)
      (by omega)
    rwa [hpayload, List.take_append_drop] at hwhole

theorem read_of_noPrefix {bs : Bytes} (h : bs.length < prefixLength) :
    read l bs = .error .needMore := by
  rw [read, Bytes.splitExact_eq_none_iff.2 h]

/-- With a prefix there, its number decides. -/
theorem read_littleEndian_append {length : Nat} (hlt : length < 256 ^ prefixLength) (rest : Bytes) :
    read l (Bytes.littleEndian prefixLength length ++ rest) =
      if maxPayload < length then .error .tooLarge
      else
        match rest.splitExact length with
        | none => .error .needMore
        | some (payload, _) =>
          match l.decode payload with
          | .ok (value, _) => .ok ⟨value, prefixLength + length⟩
          | .error fault => .error (.badPayload fault) := by
  have hsplit := Bytes.splitExact_append (Bytes.littleEndian prefixLength length) rest
  rw [Bytes.length_littleEndian] at hsplit
  rw [read, hsplit]
  dsimp only
  rewrite [Bytes.ofLittleEndian_littleEndian, Nat.mod_eq_of_lt hlt]
  rfl

theorem read_of_tooLarge {length : Nat} (hlt : length < 256 ^ prefixLength)
    (h : maxPayload < length) (rest : Bytes) :
    read l (Bytes.littleEndian prefixLength length ++ rest) = .error .tooLarge := by
  rw [read_littleEndian_append hlt, if_pos h]

theorem lt_of_le_maxPayload {length : Nat} (h : length ≤ maxPayload) :
    length < 256 ^ prefixLength :=
  h.trans_lt (by decide)

theorem read_of_noPayload {length : Nat} {rest : Bytes} (h : length ≤ maxPayload)
    (hrest : rest.length < length) :
    read l (Bytes.littleEndian prefixLength length ++ rest) = .error .needMore := by
  rw [read_littleEndian_append (lt_of_le_maxPayload h), if_neg (by omega),
    Bytes.splitExact_eq_none_iff.2 hrest]

/-- A whole payload is read as the layout reads it. -/
theorem read_of_whole {payload : Bytes} (h : payload.length ≤ maxPayload) (tail : Bytes) :
    read l (Bytes.littleEndian prefixLength payload.length ++ (payload ++ tail)) =
      match l.decode payload with
      | .ok (value, _) => .ok ⟨value, prefixLength + payload.length⟩
      | .error fault => .error (.badPayload fault) := by
  rw [read_littleEndian_append (lt_of_le_maxPayload h), if_neg (by omega),
    Bytes.splitExact_append]

/-- A frame is read where there is a whole payload from which the layout reads the value. -/
theorem read_eq_ok_iff {bs : Bytes} {frame : Frame α} :
    read l bs = .ok frame ↔ ∃ payload tail spare, payload.length ≤ maxPayload ∧
      bs = Bytes.littleEndian prefixLength payload.length ++ (payload ++ tail) ∧
      l.decode payload = .ok (frame.value, spare) ∧
      frame.size = prefixLength + payload.length := by
  constructor
  · intro h
    cases front bs with
    | noPrefix _ hshort =>
      rw [read_of_noPrefix hshort] at h
      cases h
    | tooLarge length rest hlt hlarge =>
      rw [read_of_tooLarge hlt hlarge] at h
      cases h
    | noPayload length rest hle hrest =>
      rw [read_of_noPayload hle hrest] at h
      cases h
    | whole payload tail hle =>
      rw [read_of_whole hle] at h
      split at h
      · rename_i value spare hdecode
        cases h
        exact ⟨payload, tail, spare, hle, rfl, hdecode, rfl⟩
      · cases h
  · rintro ⟨payload, tail, spare, hle, rfl, hdecode, hsize⟩
    rw [read_of_whole hle, hdecode]
    dsimp only
    rw [← hsize]

/-! ### Writing -/

theorem encode_of_le {a : α} (h : (l.encode a).length ≤ maxPayload) :
    encode l a = .ok (Bytes.littleEndian prefixLength (l.encode a).length ++ l.encode a) :=
  if_neg (by omega)

theorem encode_of_lt {a : α} (h : maxPayload < (l.encode a).length) :
    encode l a = .error .tooLarge :=
  if_pos h

theorem encode_eq_ok_iff {a : α} {frame : Bytes} :
    encode l a = .ok frame ↔ (l.encode a).length ≤ maxPayload ∧
      frame = Bytes.littleEndian prefixLength (l.encode a).length ++ l.encode a := by
  by_cases h : maxPayload < (l.encode a).length
  · rw [encode_of_lt h]
    exact ⟨nofun, fun he => absurd he.1 (by omega)⟩
  · rw [encode_of_le (by omega), Except.ok.injEq]
    exact ⟨fun he => ⟨by omega, he.symm⟩, fun he => he.2.symm⟩

theorem length_of_encode {a : α} {frame : Bytes} (h : encode l a = .ok frame) :
    frame.length = prefixLength + (l.encode a).length := by
  obtain ⟨-, rfl⟩ := encode_eq_ok_iff.1 h
  rw [List.length_append, Bytes.length_littleEndian]

/-! ### Reading what is written -/

/-- A frame is read back, whatever follows it. -/
theorem read_of_encode {R : Bytes → Bytes → Prop} (hl : l.Coherent R) {a : α} {frame : Bytes}
    (h : encode l a = .ok frame) (tail : Bytes) :
    read l (frame ++ tail) = .ok ⟨a, frame.length⟩ := by
  have hlength := length_of_encode h
  obtain ⟨hle, rfl⟩ := encode_eq_ok_iff.1 h
  have hdecode : l.decode (l.encode a) = .ok (a, []) := by
    have := hl.decode_encode a [] (hle.trans_lt (by decide))
    rwa [List.append_nil] at this
  refine read_eq_ok_iff.2 ⟨l.encode a, tail, [], hle, ?_, hdecode, hlength⟩
  rw [List.append_assoc]

/-- A value has no frame exactly if its payload is too long, and the frame that it has is read
back. -/
def RoundTrip (l : Layout α) : Prop :=
  ∀ a,
    if maxPayload < (l.encode a).length then encode l a = .error .tooLarge
    else ∃ frame, encode l a = .ok frame ∧ frame.length = prefixLength + (l.encode a).length ∧
      ∀ tail, read l (frame ++ tail) = .ok ⟨a, frame.length⟩

theorem roundTrip {R : Bytes → Bytes → Prop} (hl : l.Coherent R) : RoundTrip l := by
  intro a
  split
  · rename_i hlt
    exact encode_of_lt hlt
  · rename_i hle
    have hframe := encode_of_le (l := l) (a := a) (by omega)
    exact ⟨_, hframe, length_of_encode hframe, read_of_encode hl hframe⟩

/-- **Frames are read back.** -/
theorem roundTrip_layouts :
    RoundTrip Notification.layout ∧ RoundTrip Event.layout ∧ RoundTrip Layout.address :=
  ⟨roundTrip (R := Eq) Notification.coherent_layout, roundTrip Event.coherent_layout,
    roundTrip Layout.coherent_address⟩

/-! ### Writing what is read -/

/-- What is read from a frame has a frame that is not longer, and is read from it again. -/
def NeverGrows (l : Layout α) : Prop :=
  ∀ bs a size, read l bs = .ok ⟨a, size⟩ → ∃ frame, encode l a = .ok frame ∧
    frame.length ≤ size ∧ read l frame = .ok ⟨a, frame.length⟩

theorem neverGrows (hl : l.Coherent NoLonger) : NeverGrows l := by
  intro bs a size h
  obtain ⟨payload, tail, spare, hle, rfl, hdecode, hsize⟩ := read_eq_ok_iff.1 h
  obtain ⟨used, rfl, hused⟩ := hl.of_decode payload a spare hdecode
  have hshort : (l.encode a).length ≤ used.length := hused
  rw [List.length_append] at hle hsize
  have hframe := encode_of_le (l := l) (a := a) (by omega)
  have hread := read_of_encode hl hframe []
  rw [List.append_nil] at hread
  refine ⟨_, hframe, ?_, hread⟩
  rw [length_of_encode hframe]
  dsimp only at hsize
  omega

/-- What is read with one written form is read from this form. -/
theorem encode_prefix_of_read (hl : l.Coherent Eq) {bs : Bytes} {a : α} {size : Nat}
    (h : read l bs = .ok ⟨a, size⟩) : l.encode a <+: (bs.take size).drop prefixLength := by
  obtain ⟨payload, tail, spare, hle, rfl, hdecode, hsize⟩ := read_eq_ok_iff.1 h
  obtain ⟨used, rfl, rfl⟩ := hl.of_decode payload a spare hdecode
  refine ⟨spare, ?_⟩
  dsimp only at hsize
  have hlength : (Bytes.littleEndian prefixLength (l.encode a ++ spare).length ++
      (l.encode a ++ spare)).length = size := by
    rw [List.length_append, Bytes.length_littleEndian, hsize]
  rw [← List.append_assoc, List.take_left' hlength,
    List.drop_left' (Bytes.length_littleEndian _ _)]

/-- **What is read never grows when it is written**, and a notification has one payload. -/
theorem canonical_layouts :
    (∀ bs c size, read Notification.layout bs = .ok ⟨c, size⟩ →
      Notification.layout.encode c <+: (bs.take size).drop prefixLength) ∧
    (∀ payload payload' c, Notification.layout.decode payload = .ok (c, []) →
      Notification.layout.decode payload' = .ok (c, []) → payload = payload') ∧
    NeverGrows Notification.layout ∧ NeverGrows Event.layout ∧ NeverGrows Layout.address := by
  refine ⟨fun bs c size => encode_prefix_of_read Notification.coherent_layout,
    fun payload payload' c h h' => ?_, neverGrows Notification.coherent_layout,
    neverGrows Event.coherent_layout, neverGrows Layout.coherent_address⟩
  have hl := Notification.coherent_layout (R := Eq)
  obtain ⟨used, rfl, rfl⟩ := hl.of_decode payload c [] h
  obtain ⟨used', rfl, hused⟩ := hl.of_decode payload' c [] h'
  rw [hused]

/-- A byte behind the value in its payload is not written again. -/
theorem canonical_findStopped :
    read Notification.layout [5, 0, 0, 0, 4, 0, 0, 0, 99, 7] = .ok ⟨.findStopped, 9⟩ ∧
      Notification.layout.encode .findStopped <+: [4, 0, 0, 0, 99] ∧
      ∃ frame, encode Notification.layout .findStopped = .ok frame ∧ frame.length ≤ 9 ∧
        read Notification.layout frame = .ok ⟨.findStopped, frame.length⟩ := by
  have h : read Notification.layout [5, 0, 0, 0, 4, 0, 0, 0, 99, 7] = .ok ⟨.findStopped, 9⟩ := rfl
  exact ⟨h, canonical_layouts.1 _ _ _ h, canonical_layouts.2.2.1 _ _ _ h⟩

end WifiDirect.Frame
