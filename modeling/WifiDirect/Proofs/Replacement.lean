import WifiDirect.Proofs.Utf8
import Mathlib.Algebra.BigOperators.Group.List.Basic

/-!
# What replacement characters cost

Bytes that are well-formed are read alike with and without replacement characters (`lossy_encode`).
Of any bytes, each character that `lossy` reads is paid for by the bytes it is read from
(`sum_map_lossy_le`): a weight of at most `k` for each byte of a character, and of at most `k` for
the replacement character, sums to at most `k` for each byte that is read. So a text takes at most
three bytes for each of them (`utf8ByteSize_lossyText_le`).
-/

namespace WifiDirect.Utf8

/-! ### Well-formed bytes -/

theorem eq_lossyFrom_of_decodeFrom {index : Nat} {pending : Option Pending} {done cs : List Char}
    {bs : Bytes} (h : decodeFrom index pending done bs = .ok cs) :
    cs = done.reverse ++ lossyFrom pending bs := by
  induction bs generalizing index pending done with
  | nil =>
    cases pending with
    | none =>
      simp only [decodeFrom, Except.ok.injEq] at h
      simp [lossyFrom, h]
    | some p => simp [decodeFrom] at h
  | cons b bs ih =>
    -- one more byte ends a character, which is read already, or is read on from
    cases pending with
    | none =>
      rw [decodeFrom] at h
      rw [lossyFrom]
      cases hstart : start b with
      | bad => simp [hstart] at h
      | char c =>
        simp only [hstart] at h
        simp [Progress.andThen, ih h]
      | more p =>
        simp only [hstart] at h
        simp [Progress.andThen, ih h]
    | some p =>
      rw [decodeFrom] at h
      rw [lossyFrom]
      cases hfeed : p.feed b with
      | bad => simp [hfeed] at h
      | char c =>
        simp only [hfeed] at h
        simp [Progress.andThen, ih h]
      | more q =>
        simp only [hfeed] at h
        simp [Progress.andThen, ih h]

/-- **The bytes of characters are read as these characters.** -/
@[simp] theorem lossy_encode (cs : List Char) : lossy (encode cs) = cs := by
  have hdecode : decode (encode cs) = .ok cs := decode_eq_ok_iff.2 rfl
  have hlossy := eq_lossyFrom_of_decodeFrom hdecode
  rw [List.reverse_nil, List.nil_append] at hlossy
  exact hlossy.symm

@[simp] theorem lossyText_bytes (s : String) : lossyText (bytes s) = s := by
  rw [lossyText, bytes_eq_encode, lossy_encode, String.ofList_toList]

theorem bytes_injective {s t : String} (h : bytes s = bytes t) : s = t := by
  rw [← lossyText_bytes s, h, lossyText_bytes]

/-! ### How many bytes characters take -/

theorem utf8ByteSize_eq_length_bytes (s : String) : s.utf8ByteSize = (bytes s).length := by
  rw [bytes, Array.length_toList]
  rfl

theorem length_encode (cs : List Char) : (encode cs).length = (cs.map Char.utf8Size).sum := by
  induction cs with
  | nil => rfl
  | cons c cs ih =>
    rw [encode_cons, List.length_append, String.length_utf8EncodeChar, ih, List.map_cons,
      List.sum_cons]

theorem utf8ByteSize_ofList (cs : List Char) :
    (String.ofList cs).utf8ByteSize = (cs.map Char.utf8Size).sum := by
  rw [utf8ByteSize_eq_length_bytes, bytes_eq_encode, String.toList_ofList, length_encode]

theorem utf8Size_eq_length (c : Char) : c.utf8Size = (String.utf8EncodeChar c).length :=
  (String.length_utf8EncodeChar c).symm

theorem toNat_ofNat_le (v : Nat) : (Char.ofNat v).toNat ≤ v := by
  by_cases hv : v.isValidChar
  · exact (toNat_ofNat hv).le
  · rw [Char.ofNat, dif_neg hv]
    exact Nat.zero_le v

theorem length_continuation (k v : Nat) : (continuation k v).length = k := by
  induction k with
  | zero => rfl
  | succ k ih => rw [continuation, List.length_cons, ih]

theorem utf8Size_le_two {c : Char} (h : c.toNat < 0x800) : c.utf8Size ≤ 2 := by
  rw [utf8Size_eq_length]
  by_cases hone : c.toNat < 0x80
  · simp [encodeChar_one hone]
  · rw [encodeChar_two (by omega) h, List.length_cons, length_continuation]

theorem utf8Size_le_three {c : Char} (h : c.toNat < 0x10000) : c.utf8Size ≤ 3 := by
  by_cases htwo : c.toNat < 0x800
  · exact (utf8Size_le_two htwo).trans (by omega)
  · rw [utf8Size_eq_length, encodeChar_three (by omega) h, List.length_cons, length_continuation]

/-! ### A character that has been begun -/

/-- What has been begun may come to a character of as many bytes as are read and to come at most. -/
structure Pending.Sound (p : Pending) : Prop where
  valid : p.Valid
  seen_pos : 0 < p.seen
  utf8Size_le : ∀ v, v / 64 ^ p.more = p.code → (Char.ofNat v).utf8Size ≤ p.seen + p.more

theorem sound_of_start {b : UInt8} {p : Pending} (h : start b = .more p) :
    p.Sound ∧ p.seen = 1 := by
  have hvalid := valid_of_start h
  rcases first_cases b with hb | hb | ⟨h1, h2⟩ | ⟨h1, h2⟩ | ⟨h1, h2⟩
  · rw [start_one hb] at h
    cases h
  · rw [start_bad hb] at h
    cases h
  · rw [start_two h1 h2] at h
    cases h
    refine ⟨⟨hvalid, Nat.one_pos, fun v hv => utf8Size_le_two ?_⟩, rfl⟩
    have hle := toNat_ofNat_le v
    dsimp only at hv
    omega
  · rw [start_three h1 h2] at h
    cases h
    refine ⟨⟨hvalid, Nat.one_pos, fun v hv => utf8Size_le_three ?_⟩, rfl⟩
    have hle := toNat_ofNat_le v
    dsimp only at hv
    omega
  · rw [start_four h1 h2] at h
    cases h
    exact ⟨⟨hvalid, Nat.one_pos, fun v _ => Char.utf8Size_le_four _⟩, rfl⟩

theorem utf8Size_of_start {b : UInt8} {c : Char} (h : start b = .char c) : c.utf8Size = 1 := by
  rw [utf8Size_eq_length, encodeChar_of_start_char h, List.length_singleton]

section Feed
variable {p : Pending} {b : UInt8} (hp : p.Sound)
include hp

/-- A code that agrees with one more byte agrees with what has been read before. -/
theorem Pending.Sound.code_of_extend (hb : p.low ≤ b ∧ b ≤ p.high) {v : Nat}
    (hv : v / 64 ^ (p.more - 1) = p.extend b) : v / 64 ^ p.more = p.code :=
  ((fits_and_eq_iff hp.valid).2 ⟨hb, hv⟩).1.code_eq

theorem Pending.Sound.utf8Size_of_feed {c : Char} (h : p.feed b = .char c) :
    c.utf8Size ≤ p.seen + 1 := by
  have hpos := hp.valid.more_pos
  by_cases hb : p.low ≤ b ∧ b ≤ p.high
  · by_cases hmore : p.more ≤ 1
    · rw [feed_last hb hmore] at h
      have hone : p.more = 1 := by omega
      have hcode : p.extend b / 64 ^ p.more = p.code := by
        apply hp.code_of_extend hb
        rw [hone, Nat.sub_self, pow_zero, Nat.div_one]
      have hsize := hp.utf8Size_le _ hcode
      rw [Progress.char.inj h] at hsize
      omega
    · rw [feed_more hb hmore] at h
      cases h
  · rw [feed_bad hb] at h
    cases h

theorem Pending.Sound.of_feed {q : Pending} (h : p.feed b = .more q) :
    q.Sound ∧ q.seen = p.seen + 1 := by
  by_cases hb : p.low ≤ b ∧ b ≤ p.high
  · by_cases hmore : p.more ≤ 1
    · rw [feed_last hb hmore] at h
      cases h
    · rw [feed_more hb hmore] at h
      cases h
      refine ⟨⟨⟨?_, le_rfl, le_rfl⟩, Nat.succ_pos _, fun v hv => ?_⟩, rfl⟩
      · show 0 < p.more - 1
        omega
      · have hsize := hp.utf8Size_le v (hp.code_of_extend hb hv)
        show (Char.ofNat v).utf8Size ≤ p.seen + 1 + (p.more - 1)
        omega
  · rw [feed_bad hb] at h
    cases h

end Feed

/-! ### Weights -/

section Weight
variable {f : Char → Nat} {k : Nat} (hchar : ∀ c, f c ≤ k * c.utf8Size)
  (hreplacement : f replacement ≤ k)
include hchar hreplacement

/-- What is read of bytes weighs at most `k` for each of them and for each byte of a character
begun before. -/
theorem sum_map_lossyFrom_le (bs : Bytes) :
    ((lossyFrom none bs).map f).sum ≤ k * bs.length ∧
      ∀ p : Pending, p.Sound → ((lossyFrom (some p) bs).map f).sum ≤ k * (p.seen + bs.length) := by
  induction bs with
  | nil =>
    refine ⟨by simp [lossyFrom], fun p hp => ?_⟩
    have hseen : k * 1 ≤ k * p.seen := Nat.mul_le_mul_left k hp.seen_pos
    simp only [lossyFrom, Option.isSome_some, if_true, List.map_cons, List.map_nil, List.sum_cons,
      List.sum_nil, List.length_nil, Nat.add_zero]
    omega
  | cons b bs ih =>
    obtain ⟨hnone, hsome⟩ := ih
    have hcons : k * (b :: bs).length = k + k * bs.length := by
      rw [List.length_cons]
      ring
    have hfirst : (((start b).andThen fun next => lossyFrom next bs).map f).sum ≤
        k * (b :: bs).length := by
      cases hstart : start b with
      | bad =>
        simp only [Progress.andThen, List.map_cons, List.sum_cons]
        omega
      | char c =>
        have hc := hchar c
        rw [utf8Size_of_start hstart] at hc
        simp only [Progress.andThen, List.map_cons, List.sum_cons]
        omega
      | more p =>
        obtain ⟨hp, hseen⟩ := sound_of_start hstart
        have hrest := hsome p hp
        rw [hseen, Nat.mul_add] at hrest
        simp only [Progress.andThen]
        omega
    refine ⟨hfirst, fun p hp => ?_⟩
    have hseen : k * 1 ≤ k * p.seen := Nat.mul_le_mul_left k hp.seen_pos
    rw [lossyFrom, Nat.mul_add]
    cases hfeed : p.feed b with
    | bad =>
      simp only [List.map_cons, List.sum_cons]
      omega
    | char c =>
      have hc : f c ≤ k * (p.seen + 1) :=
        (hchar c).trans (Nat.mul_le_mul_left k (hp.utf8Size_of_feed hfeed))
      rw [Nat.mul_add] at hc
      simp only [Progress.andThen, List.map_cons, List.sum_cons]
      omega
    | more q =>
      obtain ⟨hq, hqseen⟩ := hp.of_feed hfeed
      have hrest := hsome q hq
      rw [hqseen, Nat.mul_add, Nat.mul_add] at hrest
      simp only [Progress.andThen]
      omega

/-- **The characters of any bytes are paid for by the bytes.** -/
theorem sum_map_lossy_le (bs : Bytes) : ((lossy bs).map f).sum ≤ k * bs.length :=
  (sum_map_lossyFrom_le hchar hreplacement bs).1

end Weight

/-- **A text takes at most three bytes for each byte that it is read from.** -/
theorem utf8ByteSize_lossyText_le (bs : Bytes) :
    (lossyText bs).utf8ByteSize ≤ 3 * bs.length := by
  rw [lossyText, utf8ByteSize_ofList]
  exact sum_map_lossy_le (fun c => by omega) (by decide) bs

end WifiDirect.Utf8
