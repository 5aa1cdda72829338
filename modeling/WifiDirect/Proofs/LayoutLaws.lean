import WifiDirect.Proofs.AddressText
import WifiDirect.Layout.Choice
import WifiDirect.Layout.Record
import Mathlib.Order.Basic

/-!
# Writing and reading agree

A layout is `Coherent` if what it writes is read back, whatever follows, and if what it reads is the
written form of the value (`R` is equality) or at least not shorter than it (`R` is `NoLonger`).
Numbers, truth values and texts have one written form and are coherent in both ways; an address is
read from more than one. Optional values and lists of coherent layouts are coherent.

Counts take eight bytes, so all this is about values whose written form has fewer than `256 ^ 8`.
-/

namespace WifiDirect

variable {α β : Type} {R : Bytes → Bytes → Prop}

/-! ### The law -/

/-- A comparison of bytes that holds of a run if it holds of its pieces. -/
class Piecewise (R : Bytes → Bytes → Prop) : Prop where
  refl : ∀ bs, R bs bs
  append : ∀ {bs cs bs' cs' : Bytes}, R bs cs → R bs' cs' → R (bs ++ bs') (cs ++ cs')

/-- The written form is no longer than the bytes that were read. -/
def NoLonger (used written : Bytes) : Prop := written.length ≤ used.length

instance : Piecewise Eq where
  refl _ := rfl
  append h h' := by rw [h, h']

instance : Piecewise NoLonger where
  refl _ := le_rfl
  append h h' := by
    unfold NoLonger at *
    rw [List.length_append, List.length_append]
    omega

/-- **Writing and reading agree.** -/
structure Coherent (R : Bytes → Bytes → Prop) (encode : α → Bytes)
    (decode : Bytes → Except Fault (α × Bytes)) : Prop where
  /-- What is written is read back, whatever follows. -/
  decode_encode : ∀ a rest, (encode a).length < 256 ^ 8 → decode (encode a ++ rest) = .ok (a, rest)
  /-- What is read compares with the written form of the value. -/
  of_decode : ∀ bs a rest, decode bs = .ok (a, rest) → ∃ used, bs = used ++ rest ∧ R used (encode a)

/-- Writing and reading agree in a layout. -/
def Layout.Coherent (R : Bytes → Bytes → Prop) (l : Layout α) : Prop :=
  WifiDirect.Coherent R l.encode l.decode

/-- Writing and reading agree for all fields together. -/
def Fields.Coherent (R : Bytes → Bytes → Prop) (fields : Fields β) : Prop :=
  WifiDirect.Coherent R fields.encode fields.decode

theorem bind_eq_ok_iff {ε : Type} {x : Except ε α} {f : α → Except ε β} {b : β} :
    (x >>= f) = .ok b ↔ ∃ a, x = .ok a ∧ f a = .ok b := by
  cases x with
  | error e => simp [bind, Except.bind]
  | ok a => simp [bind, Except.bind]

theorem bind_ok {ε : Type} (a : α) (f : α → Except ε β) : (Except.ok a >>= f) = f a := rfl

namespace Coherent

variable {encode : α → Bytes} {decode : Bytes → Except Fault (α × Bytes)}

/-- What cannot be read from nothing is not written as nothing. -/
theorem encode_pos (h : Coherent R encode decode) (hnil : ∀ a, decode [] ≠ .ok (a, []))
    (a : α) : 0 < (encode a).length := by
  by_contra hpos
  have hempty : encode a = [] := List.eq_nil_of_length_eq_zero (by omega)
  have hread := h.decode_encode a [] (by rw [hempty]; decide)
  rw [hempty] at hread
  exact hnil a hread

/-- The values of another type, taken apart and built. -/
theorem map {parts : β → α} {build : α → β} (h : Coherent R encode decode)
    (hbuild : ∀ b, build (parts b) = b)
    (hparts : ∀ used a, R used (encode a) → R used (encode (parts (build a)))) :
    Coherent R (fun b => encode (parts b)) fun bs => do
      let (a, rest) ← decode bs
      return (build a, rest) where
  decode_encode b rest hlen := by
    rw [h.decode_encode (parts b) rest hlen]
    show Except.ok (build (parts b), rest) = _
    rw [hbuild]
  of_decode bs b rest hd := by
    rw [bind_eq_ok_iff] at hd
    obtain ⟨⟨a, rest'⟩, ha, hb⟩ := hd
    cases hb
    obtain ⟨used, hbs, hR⟩ := h.of_decode bs a _ ha
    exact ⟨used, hbs, hparts used a hR⟩

/-- One value after another. -/
theorem pair [Piecewise R] {encode' : β → Bytes} {decode' : Bytes → Except Fault (β × Bytes)}
    (h : Coherent R encode decode) (h' : Coherent R encode' decode') :
    Coherent R (fun v : α × β => encode v.1 ++ encode' v.2) fun bs => do
      let (a, bs) ← decode bs
      let (b, bs) ← decode' bs
      return ((a, b), bs) where
  decode_encode v rest hlen := by
    rw [List.length_append] at hlen
    rw [List.append_assoc, h.decode_encode v.1 _ (by omega)]
    show (decode' (encode' v.2 ++ rest) >>= fun x => _) = _
    rw [h'.decode_encode v.2 rest (by omega)]
    rfl
  of_decode bs v rest hd := by
    rw [bind_eq_ok_iff] at hd
    obtain ⟨⟨a, bs'⟩, ha, hd⟩ := hd
    rw [bind_eq_ok_iff] at hd
    obtain ⟨⟨b, bs''⟩, hb, hd⟩ := hd
    cases hd
    obtain ⟨used, rfl, hR⟩ := h.of_decode bs a bs' ha
    obtain ⟨used', rfl, hR'⟩ := h'.of_decode bs' b _ hb
    exact ⟨used ++ used', by rw [List.append_assoc], Piecewise.append hR hR'⟩

end Coherent

/-! ### Numbers and truth values -/

namespace Bytes

theorem ofLittleEndian_lt (bs : Bytes) : ofLittleEndian bs < 256 ^ bs.length := by
  induction bs with
  | nil => simp [ofLittleEndian]
  | cons b bs ih =>
    have hb : b.toNat < 256 := b.toNat_lt
    simp only [ofLittleEndian, List.length_cons, Nat.pow_succ]
    omega

/-- A word of `k` bytes reads back, modulo what `k` bytes can hold. -/
theorem ofLittleEndian_littleEndian (k n : Nat) :
    ofLittleEndian (littleEndian k n) = n % 256 ^ k := by
  induction k generalizing n with
  | zero => simp [littleEndian, ofLittleEndian, Nat.mod_one]
  | succ k ih =>
    have hb : (UInt8.ofNat n).toNat = n % 256 := by simp
    simp only [littleEndian, ofLittleEndian, ih, hb, Nat.pow_succ]
    rw [Nat.mul_comm (256 ^ k) 256, Nat.mod_mul]

end Bytes

namespace Layout

variable [Piecewise R]

theorem decodeWord_append (k n : Nat) (rest : Bytes) :
    decodeWord k (Bytes.littleEndian k n ++ rest) = .ok (n % 256 ^ k, rest) := by
  have hsplit := Bytes.splitExact_append (Bytes.littleEndian k n) rest
  rw [Bytes.length_littleEndian] at hsplit
  rw [decodeWord, hsplit]
  dsimp only
  rw [Bytes.ofLittleEndian_littleEndian]

theorem decodeWord_eq_ok_iff {k n : Nat} {bs rest : Bytes} :
    decodeWord k bs = .ok (n, rest) ↔ n < 256 ^ k ∧ bs = Bytes.littleEndian k n ++ rest := by
  constructor
  · intro h
    unfold decodeWord at h
    split at h
    · rename_i front rest' hsplit
      cases h
      obtain ⟨rfl, rfl⟩ := Bytes.splitExact_eq_some_iff.1 hsplit
      exact ⟨Bytes.ofLittleEndian_lt front, by rw [Bytes.littleEndian_ofLittleEndian]⟩
    · cases h
  · rintro ⟨hlt, rfl⟩
    rw [decodeWord_append, Nat.mod_eq_of_lt hlt]

theorem coherent_word (k : Nat) (toNat : α → Nat) (ofNat : Nat → α) (hlt : ∀ a, toNat a < 256 ^ k)
    (hof : ∀ a, ofNat (toNat a) = a) (hto : ∀ n < 256 ^ k, toNat (ofNat n) = n) :
    (word k toNat ofNat).Coherent R where
  decode_encode a rest _ := by
    show (decodeWord k (Bytes.littleEndian k (toNat a) ++ rest) >>= fun x => _) = _
    rw [decodeWord_append, Nat.mod_eq_of_lt (hlt a)]
    show Except.ok (ofNat (toNat a), rest) = _
    rw [hof]
  of_decode bs a rest hd := by
    obtain ⟨⟨n, rest'⟩, hn, ha⟩ := bind_eq_ok_iff.1 hd
    cases ha
    obtain ⟨hlt', rfl⟩ := decodeWord_eq_ok_iff.1 hn
    refine ⟨_, rfl, ?_⟩
    show R _ (Bytes.littleEndian k (toNat (ofNat n)))
    rw [hto n hlt']
    exact Piecewise.refl _

theorem coherent_u8 : u8.Coherent R :=
  coherent_word 1 _ _ UInt8.toNat_lt (fun _ => UInt8.ofNat_toNat) fun n hn => by
    rw [UInt8.toNat_ofNat', Nat.mod_eq_of_lt (by omega)]

theorem coherent_u16 : u16.Coherent R :=
  coherent_word 2 _ _ UInt16.toNat_lt (fun _ => UInt16.ofNat_toNat) fun n hn => by
    rw [UInt16.toNat_ofNat', Nat.mod_eq_of_lt (by omega)]

theorem coherent_u32 : u32.Coherent R :=
  coherent_word 4 _ _ UInt32.toNat_lt (fun _ => UInt32.ofNat_toNat) fun n hn => by
    rw [UInt32.toNat_ofNat', Nat.mod_eq_of_lt (by omega)]

/-- A signed number is written as the word with its bits. -/
theorem coherent_i32 : i32.Coherent R :=
  coherent_word 4 (fun i : Int32 => i.toUInt32.toNat) (fun n => (UInt32.ofNat n).toInt32)
    (fun i => i.toUInt32.toNat_lt)
    (fun i => by simp) fun n hn => by
      show (UInt32.ofNat n).toNat = n
      rw [UInt32.toNat_ofNat', Nat.mod_eq_of_lt (by omega)]

theorem coherent_bool : bool.Coherent R where
  decode_encode b rest _ := by cases b <;> rfl
  of_decode bs b rest hd := by
    simp only [bool] at hd
    split at hd
    · cases hd
    · cases hd
      exact ⟨[0], rfl, Piecewise.refl _⟩
    · cases hd
      exact ⟨[1], rfl, Piecewise.refl _⟩
    · cases hd

/-! ### Texts and addresses -/

theorem decodeText_eq_ok_iff {bs rest : Bytes} {s : String} :
    decodeText bs = .ok (s, rest) ↔
      (Utf8.bytes s).length < 256 ^ 8 ∧ bs = encodeText s ++ rest := by
  constructor
  · intro hd
    obtain ⟨⟨size, rest'⟩, hsize, htext⟩ := bind_eq_ok_iff.1 hd
    obtain ⟨hlt, rfl⟩ := decodeWord_eq_ok_iff.1 hsize
    dsimp only at htext
    split at htext
    · cases htext
    rename_i content rest'' hsplit
    obtain ⟨rfl, rfl⟩ := Bytes.splitExact_eq_some_iff.1 hsplit
    split at htext
    · rename_i s' htext
      cases htext
      obtain rfl := Utf8.text_eq_ok_iff.1 htext
      exact ⟨hlt, by rw [encodeText, List.append_assoc]⟩
    · cases htext
  · rintro ⟨hlt, rfl⟩
    rw [decodeText, encodeText, List.append_assoc, decodeWord_append, Nat.mod_eq_of_lt hlt]
    simp only [bind_ok, Bytes.splitExact_append, Utf8.text_bytes]

theorem length_encodeText (s : String) : (encodeText s).length = 8 + (Utf8.bytes s).length := by
  rw [encodeText, List.length_append, Bytes.length_littleEndian]

theorem coherent_text : text.Coherent R where
  decode_encode s rest hlen := by
    rw [show text.encode s = encodeText s from rfl, length_encodeText] at hlen
    exact decodeText_eq_ok_iff.2 ⟨by omega, rfl⟩
  of_decode bs s rest hd := ⟨_, (decodeText_eq_ok_iff.1 hd).2, Piecewise.refl _⟩

/-- A text that is read as an address may be written in other letters, but not in fewer. -/
theorem coherent_address : address.Coherent NoLonger where
  decode_encode a rest hlen := by
    have htext : decodeText (encodeText a.text ++ rest) = .ok (a.text, rest) :=
      (coherent_text (R := Eq)).decode_encode a.text rest hlen
    show (decodeText (encodeText a.text ++ rest) >>= fun x => _) = _
    simp only [htext, bind_ok, Address.parse?_text]
  of_decode bs a rest hd := by
    obtain ⟨⟨s, rest'⟩, hs, hd⟩ := bind_eq_ok_iff.1 hd
    dsimp only at hd
    split at hd
    · rename_i a' hparse
      cases hd
      refine ⟨encodeText s, (decodeText_eq_ok_iff.1 hs).2, ?_⟩
      show (encodeText a.text).length ≤ (encodeText s).length
      have hle := Address.le_length_bytes_of_parse? hparse
      rw [length_encodeText, length_encodeText, Address.length_bytes_text]
      omega
    · cases hd

theorem coherent_ipv4 : ipv4.Coherent R where
  decode_encode ip rest _ := rfl
  of_decode bs ip rest hd := by
    simp only [ipv4] at hd
    split at hd
    · rename_i a b c d rest'
      cases hd
      exact ⟨[a, b, c, d], rfl, Piecewise.refl _⟩
    · cases hd

/-! ### Optional values and lists -/

omit [Piecewise R] in
theorem coherent_withDefault {l : Layout α} (h : l.Coherent R) (a : α) :
    (l.withDefault a).Coherent R :=
  ⟨h.decode_encode, h.of_decode⟩

theorem coherent_optional {l : Layout α} (h : l.Coherent R) :
    l.optional.Coherent R where
  decode_encode a? rest hlen := by
    cases a? with
    | none => rfl
    | some a =>
      have hlen' : (l.encode a).length < 256 ^ 8 := by
        have : (1 :: l.encode a).length < 256 ^ 8 := hlen
        rw [List.length_cons] at this
        omega
      show (l.decode (l.encode a ++ rest) >>= fun x => _) = _
      rw [h.decode_encode a rest hlen']
      rfl
  of_decode bs a? rest hd := by
    simp only [optional] at hd
    split at hd
    · cases hd
    · cases hd
      exact ⟨[0], rfl, Piecewise.refl _⟩
    · obtain ⟨⟨a, rest'⟩, ha, hd⟩ := bind_eq_ok_iff.1 hd
      cases hd
      obtain ⟨used, rfl, hR⟩ := h.of_decode _ a _ ha
      exact ⟨1 :: used, rfl, Piecewise.append (Piecewise.refl [1]) hR⟩
    · cases hd

section Many

variable {encode : α → Bytes} {decode : Bytes → Except Fault (α × Bytes)}

omit [Piecewise R] in
/-- Values written one after the other are read back. -/
theorem decodeMany_flatMap (h : WifiDirect.Coherent R encode decode) {as : List α}
    (hlen : (as.flatMap encode).length < 256 ^ 8) (done : List α) (rest : Bytes) :
    decodeMany decode as.length done (as.flatMap encode ++ rest) =
      .ok (done.reverse ++ as, rest) := by
  induction as generalizing done with
  | nil => simp [decodeMany]
  | cons a as ih =>
    rw [List.flatMap_cons, List.length_append] at hlen
    rw [List.length_cons, List.flatMap_cons, List.append_assoc, decodeMany,
      h.decode_encode a _ (by omega)]
    dsimp only
    rw [ih (by omega), List.reverse_cons, List.append_assoc, List.singleton_append]

/-- Values that are read one after the other compare with their written forms in a row. -/
theorem of_decodeMany (h : WifiDirect.Coherent R encode decode) {n : Nat}
    {done as : List α} {bs rest : Bytes} (hd : decodeMany decode n done bs = .ok (as, rest)) :
    ∃ new used, as = done.reverse ++ new ∧ new.length = n ∧ bs = used ++ rest ∧
      R used (new.flatMap encode) := by
  induction n generalizing done bs with
  | zero =>
    cases hd
    exact ⟨[], [], by simp, rfl, rfl, Piecewise.refl _⟩
  | succ n ih =>
    rw [decodeMany] at hd
    split at hd
    · rename_i a rest' ha
      obtain ⟨new, used, rfl, rfl, rfl, hR⟩ := ih hd
      obtain ⟨used', rfl, hR'⟩ := h.of_decode bs a _ ha
      exact ⟨a :: new, used' ++ used, by simp, rfl, by rw [List.append_assoc],
        by rw [List.flatMap_cons]; exact Piecewise.append hR' hR⟩
    · cases hd

/-- No more values are written than bytes, if each takes at least one. -/
theorem length_le_length_flatMap (hpos : ∀ a, 0 < (encode a).length) (as : List α) :
    as.length ≤ (as.flatMap encode).length := by
  induction as with
  | nil => simp
  | cons a as ih =>
    have := hpos a
    rw [List.flatMap_cons, List.length_append, List.length_cons]
    omega

/-- A count and as many values. -/
theorem coherent_many (h : WifiDirect.Coherent R encode decode)
    (hpos : ∀ a, 0 < (encode a).length) :
    WifiDirect.Coherent R
      (fun as : List α => Bytes.littleEndian 8 as.length ++ as.flatMap encode) (fun bs => do
        let (count, rest) ← decodeWord 8 bs
        decodeMany decode count [] rest) := by
  constructor
  · intro as rest hlen
    rw [List.length_append] at hlen
    have hcontent : (as.flatMap encode).length < 256 ^ 8 := by omega
    have hcount : as.length < 256 ^ 8 :=
      (length_le_length_flatMap hpos as).trans_lt hcontent
    rw [List.append_assoc, decodeWord_append, Nat.mod_eq_of_lt hcount]
    show decodeMany decode as.length [] (as.flatMap encode ++ rest) = _
    rw [decodeMany_flatMap h hcontent [] rest, List.reverse_nil, List.nil_append]
  · intro bs as rest hd
    rw [bind_eq_ok_iff] at hd
    obtain ⟨⟨count, rest'⟩, hcount, hmany⟩ := hd
    obtain ⟨-, rfl⟩ := decodeWord_eq_ok_iff.1 hcount
    obtain ⟨new, used, rfl, rfl, rfl, hR⟩ := of_decodeMany h hmany
    exact ⟨Bytes.littleEndian 8 as.length ++ used, by rw [List.append_assoc],
      Piecewise.append (Piecewise.refl _) hR⟩

end Many

theorem coherent_list {l : Layout α} (h : l.Coherent R)
    (hnil : ∀ a, l.decode [] ≠ .ok (a, [])) : l.list.Coherent R :=
  coherent_many h (h.encode_pos hnil)

theorem coherent_bytes : bytes.Coherent R :=
  coherent_list coherent_u8 fun a h => by cases h

end Layout

end WifiDirect
