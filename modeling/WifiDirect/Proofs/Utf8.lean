import WifiDirect.Text.Utf8
import Mathlib.Tactic.Ring

/-!
# UTF-8 is read and written by the same rule

The bytes of a character above U+007F are a leading byte and `k` continuation bytes, each with six
bits of its code (`continuation`). A character that has been begun is one of those whose code `Fits`
what has been read; reading on from it is reading the continuation bytes of such a code
(`decodeFrom_some_eq_ok_iff`).

The main statements are `decode_eq_ok_iff`, that bytes are read as characters exactly if they are
the bytes of these characters, and the same for texts (`text_eq_ok_iff`).
-/

namespace WifiDirect.Utf8

/-! ### Continuation bytes -/

/-- The `k` continuation bytes of a code, six bits in each. -/
def continuation : Nat → Nat → Bytes
  | 0, _ => []
  | k + 1, v => UInt8.ofNat (v / 64 ^ k % 64 + 0x80) :: continuation k v

/-- More bytes are to come, and the next of them is a continuation byte. -/
structure Pending.Valid (p : Pending) : Prop where
  more_pos : 0 < p.more
  le_low : 0x80 ≤ p.low.toNat
  high_le : p.high.toNat ≤ 0xBF

/-- The character begun may turn out to have the code `v`. -/
structure Pending.Fits (p : Pending) (v : Nat) : Prop where
  code_eq : v / 64 ^ p.more = p.code
  low_le : p.low.toNat ≤ v / 64 ^ (p.more - 1) % 64 + 0x80
  le_high : v / 64 ^ (p.more - 1) % 64 + 0x80 ≤ p.high.toNat

theorem toNat_ofNat_tail (n : Nat) : (UInt8.ofNat (n % 64 + 0x80)).toNat = n % 64 + 0x80 := by
  rw [UInt8.toNat_ofNat']
  omega

/-- The next byte of a code that fits is in the range, and adds its six bits. -/
theorem fits_and_eq_iff {p : Pending} (hp : p.Valid) {b : UInt8} {v : Nat} :
    p.Fits v ∧ b = UInt8.ofNat (v / 64 ^ (p.more - 1) % 64 + 0x80) ↔
      (p.low ≤ b ∧ b ≤ p.high) ∧ v / 64 ^ (p.more - 1) = p.code * 64 + (b.toNat - 0x80) := by
  obtain ⟨hmore, hlow, hhigh⟩ := hp
  have hdiv : v / 64 ^ p.more = v / 64 ^ (p.more - 1) / 64 := by
    rw [Nat.div_div_eq_div_mul, ← pow_succ, Nat.sub_add_cancel hmore]
  rw [UInt8.le_iff_toNat_le, UInt8.le_iff_toNat_le]
  constructor
  · rintro ⟨⟨hcode, h1, h2⟩, rfl⟩
    rw [toNat_ofNat_tail]
    omega
  · rintro ⟨⟨h1, h2⟩, hv⟩
    refine ⟨⟨by omega, by omega, by omega⟩, ?_⟩
    rw [← UInt8.toNat_inj, toNat_ofNat_tail]
    omega

/-- Behind the second byte every continuation byte is in the range. -/
theorem fits_plain_iff (seen more code v : Nat) :
    (⟨seen, more, 0x80, 0xBF, code⟩ : Pending).Fits v ↔ v / 64 ^ more = code := by
  constructor
  · exact Pending.Fits.code_eq
  · intro h
    refine ⟨h, ?_, ?_⟩
    · show 128 ≤ v / 64 ^ (more - 1) % 64 + 0x80
      omega
    · show v / 64 ^ (more - 1) % 64 + 0x80 ≤ 191
      omega

theorem continuation_of_pos {k : Nat} (hk : 0 < k) (v : Nat) :
    continuation k v = UInt8.ofNat (v / 64 ^ (k - 1) % 64 + 0x80) :: continuation (k - 1) v := by
  obtain ⟨m, rfl⟩ : ∃ m, k = m + 1 := ⟨k - 1, by omega⟩
  rfl

/-! ### A character that has been begun -/

/-- The code after one more byte. -/
def Pending.extend (p : Pending) (b : UInt8) : Nat := p.code * 64 + (b.toNat - 0x80)

theorem feed_last {p : Pending} {b : UInt8} (hb : p.low ≤ b ∧ b ≤ p.high) (hmore : p.more ≤ 1) :
    p.feed b = .char (Char.ofNat (p.extend b)) := by
  rw [Pending.feed, if_pos hb]
  exact if_pos hmore

theorem feed_more {p : Pending} {b : UInt8} (hb : p.low ≤ b ∧ b ≤ p.high) (hmore : ¬ p.more ≤ 1) :
    p.feed b = .more ⟨p.seen + 1, p.more - 1, 0x80, 0xBF, p.extend b⟩ := by
  rw [Pending.feed, if_pos hb]
  exact if_neg hmore

theorem feed_bad {p : Pending} {b : UInt8} (hb : ¬ (p.low ≤ b ∧ b ≤ p.high)) : p.feed b = .bad := by
  rw [Pending.feed, if_neg hb]

/-- One more byte is in the range, and ends the character or is read on from. -/
theorem decodeFrom_some_cons_eq_ok_iff {p : Pending} {index : Nat} {done cs : List Char} {b : UInt8}
    {bs : Bytes} :
    decodeFrom index (some p) done (b :: bs) = .ok cs ↔ (p.low ≤ b ∧ b ≤ p.high) ∧
      (if p.more ≤ 1 then
        decodeFrom (index + p.seen + 1) none (Char.ofNat (p.extend b) :: done) bs
      else
        decodeFrom index (some ⟨p.seen + 1, p.more - 1, 0x80, 0xBF, p.extend b⟩) done bs) =
        .ok cs := by
  by_cases hb : p.low ≤ b ∧ b ≤ p.high
  · rw [and_iff_right hb]
    by_cases hmore : p.more ≤ 1
    · simp only [decodeFrom, feed_last hb hmore, if_pos hmore]
    · simp only [decodeFrom, feed_more hb hmore, if_neg hmore]
  · simp only [decodeFrom, feed_bad hb, reduceCtorEq, false_iff]
    exact fun h => hb h.1

/-- **Reading on from a character begun** is reading the continuation bytes of a code that fits. -/
theorem decodeFrom_some_eq_ok_iff {p : Pending} (hp : p.Valid) {index : Nat} {done cs : List Char}
    {bs : Bytes} :
    decodeFrom index (some p) done bs = .ok cs ↔
      ∃ v rest, p.Fits v ∧ bs = continuation p.more v ++ rest ∧
        decodeFrom (index + p.seen + p.more) none (Char.ofNat v :: done) rest = .ok cs := by
  induction bs generalizing p with
  | nil => simp [decodeFrom, continuation_of_pos hp.more_pos]
  | cons b bs ih =>
    have hpos := hp.more_pos
    have hcons : ∀ v rest, (p.Fits v ∧ b :: bs = continuation p.more v ++ rest) ↔
        ((p.low ≤ b ∧ b ≤ p.high) ∧ v / 64 ^ (p.more - 1) = p.extend b) ∧
          bs = continuation (p.more - 1) v ++ rest := by
      intro v rest
      rw [continuation_of_pos hpos, List.cons_append, List.cons.injEq, ← and_assoc]
      exact and_congr_left' (fits_and_eq_iff hp)
    rw [decodeFrom_some_cons_eq_ok_iff]
    by_cases hmore : p.more ≤ 1
    · have hone : p.more = 1 := by omega
      simp only [← and_assoc, hcons]
      simp only [hone, le_refl, if_true, Nat.sub_self, pow_zero, Nat.div_one, continuation,
        List.nil_append]
      constructor
      · rintro ⟨hb, h⟩
        exact ⟨_, bs, ⟨⟨hb, rfl⟩, rfl⟩, h⟩
      · rintro ⟨v, rest, ⟨⟨hb, hv⟩, hrest⟩, h⟩
        rw [← hv, hrest]
        exact ⟨hb, h⟩
    · rw [if_neg hmore, ih ⟨by simp; omega, by simp, by simp⟩]
      simp only [← and_assoc, hcons, fits_plain_iff]
      have hindex : index + (p.seen + 1) + (p.more - 1) = index + p.seen + p.more := by omega
      rw [hindex]
      constructor
      · rintro ⟨hb, v, rest, ⟨hv, hbs⟩, h⟩
        exact ⟨v, rest, ⟨⟨hb, hv⟩, hbs⟩, h⟩
      · rintro ⟨v, rest, ⟨⟨hb, hv⟩, hbs⟩, h⟩
        exact ⟨hb, v, rest, ⟨hv, hbs⟩, h⟩

/-! ### The first byte -/

/-- The first byte with its conditions as numbers. -/
theorem start_eq (b : UInt8) :
    start b =
      if b.toNat < 0x80 then .char (Char.ofNat b.toNat)
      else if b.toNat < 0xC2 then .bad
      else if b.toNat < 0xE0 then .more ⟨1, 1, 0x80, 0xBF, b.toNat - 0xC0⟩
      else if b.toNat = 0xE0 then .more ⟨1, 2, 0xA0, 0xBF, 0⟩
      else if b.toNat = 0xED then .more ⟨1, 2, 0x80, 0x9F, 0xD⟩
      else if b.toNat < 0xF0 then .more ⟨1, 2, 0x80, 0xBF, b.toNat - 0xE0⟩
      else if b.toNat = 0xF0 then .more ⟨1, 3, 0x90, 0xBF, 0⟩
      else if b.toNat < 0xF4 then .more ⟨1, 3, 0x80, 0xBF, b.toNat - 0xF0⟩
      else if b.toNat = 0xF4 then .more ⟨1, 3, 0x80, 0x8F, 4⟩
      else .bad := by
  simp only [start, UInt8.lt_iff_toNat_lt, ← UInt8.toNat_inj, UInt8.reduceToNat]

theorem start_one {b : UInt8} (h : b.toNat < 0x80) : start b = .char (Char.ofNat b.toNat) := by
  rw [start_eq, if_pos h]

theorem start_two {b : UInt8} (h : 0xC2 ≤ b.toNat) (h' : b.toNat < 0xE0) :
    start b = .more ⟨1, 1, 0x80, 0xBF, b.toNat - 0xC0⟩ := by
  rw [start_eq, if_neg (by omega), if_neg (by omega), if_pos h']

/-- Behind E0 overlong forms are left out, behind ED the surrogates. -/
theorem start_three {b : UInt8} (h : 0xE0 ≤ b.toNat) (h' : b.toNat < 0xF0) :
    start b = .more ⟨1, 2, if b.toNat = 0xE0 then 0xA0 else 0x80,
      if b.toNat = 0xED then 0x9F else 0xBF, b.toNat - 0xE0⟩ := by
  rw [start_eq, if_neg (by omega), if_neg (by omega), if_neg (by omega)]
  by_cases h0 : b.toNat = 0xE0
  · simp [h0]
  by_cases hd : b.toNat = 0xED
  · simp [hd]
  rw [if_neg h0, if_neg hd, if_pos h', if_neg h0, if_neg hd]

/-- Behind F0 overlong forms are left out, behind F4 what lies above U+10FFFF. -/
theorem start_four {b : UInt8} (h : 0xF0 ≤ b.toNat) (h' : b.toNat < 0xF5) :
    start b = .more ⟨1, 3, if b.toNat = 0xF0 then 0x90 else 0x80,
      if b.toNat = 0xF4 then 0x8F else 0xBF, b.toNat - 0xF0⟩ := by
  rw [start_eq, if_neg (by omega), if_neg (by omega), if_neg (by omega), if_neg (by omega),
    if_neg (by omega), if_neg (by omega)]
  by_cases h0 : b.toNat = 0xF0
  · simp [h0]
  by_cases h4 : b.toNat = 0xF4
  · simp [h4]
  rw [if_neg h0, if_pos (by omega), if_neg h0, if_neg h4]

theorem start_bad {b : UInt8} (h : 0x80 ≤ b.toNat ∧ b.toNat < 0xC2 ∨ 0xF5 ≤ b.toNat) :
    start b = .bad := by
  rw [start_eq, if_neg (by omega)]
  rcases h with h | h
  · rw [if_pos h.2]
  · rw [if_neg (by omega), if_neg (by omega), if_neg (by omega), if_neg (by omega),
      if_neg (by omega), if_neg (by omega), if_neg (by omega), if_neg (by omega)]

theorem isValidChar_toNat (c : Char) : c.toNat.isValidChar := c.valid

theorem toNat_ofNat {v : Nat} (h : v.isValidChar) : (Char.ofNat v).toNat = v := by
  rw [Char.ofNat, dif_pos h]
  rfl

theorem encodeChar_one {c : Char} (h : c.toNat < 0x80) :
    String.utf8EncodeChar c = [UInt8.ofNat c.toNat] := by
  have hv : c.val.toNat = c.toNat := rfl
  rw [String.utf8EncodeChar, hv, if_pos (by omega)]

theorem encodeChar_two {c : Char} (h : 0x80 ≤ c.toNat) (h' : c.toNat < 0x800) :
    String.utf8EncodeChar c = UInt8.ofNat (c.toNat / 64 + 0xC0) :: continuation 1 c.toNat := by
  have hv : c.val.toNat = c.toNat := rfl
  rw [String.utf8EncodeChar, hv, if_neg (by omega), if_pos (by omega),
    Nat.mod_eq_of_lt (a := c.toNat / 64) (by omega)]
  simp only [continuation, pow_zero, Nat.div_one]

theorem encodeChar_three {c : Char} (h : 0x800 ≤ c.toNat) (h' : c.toNat < 0x10000) :
    String.utf8EncodeChar c = UInt8.ofNat (c.toNat / 4096 + 0xE0) :: continuation 2 c.toNat := by
  have hv : c.val.toNat = c.toNat := rfl
  rw [String.utf8EncodeChar, hv, if_neg (by omega), if_neg (by omega), if_pos (by omega),
    Nat.mod_eq_of_lt (a := c.toNat / 4096) (by omega)]
  simp only [continuation, pow_zero, pow_one, Nat.div_one]

theorem encodeChar_four {c : Char} (h : 0x10000 ≤ c.toNat) :
    String.utf8EncodeChar c = UInt8.ofNat (c.toNat / 262144 + 0xF0) :: continuation 3 c.toNat := by
  have hv : c.val.toNat = c.toNat := rfl
  have hlt : c.toNat < 0x110000 := by
    rcases isValidChar_toNat c with h | h <;> omega
  rw [String.utf8EncodeChar, hv, if_neg (by omega), if_neg (by omega), if_neg (by omega),
    Nat.mod_eq_of_lt (a := c.toNat / 262144) (by omega)]
  simp only [continuation, pow_zero, pow_one, Nat.div_one, Nat.reducePow]

/-! ### Which codes fit a first byte -/

theorem fits_three_iff {b : UInt8} {v : Nat} (h : 0xE0 ≤ b.toNat) (h' : b.toNat < 0xF0) :
    (⟨1, 2, if b.toNat = 0xE0 then 0xA0 else 0x80, if b.toNat = 0xED then 0x9F else 0xBF,
      b.toNat - 0xE0⟩ : Pending).Fits v ↔
      v / 4096 = b.toNat - 0xE0 ∧ 0x800 ≤ v ∧ v.isValidChar := by
  have hlow : (if b.toNat = 0xE0 then 0xA0 else 0x80 : UInt8).toNat =
      if b.toNat = 0xE0 then 0xA0 else 0x80 := by split <;> rfl
  have hhigh : (if b.toNat = 0xED then 0x9F else 0xBF : UInt8).toNat =
      if b.toNat = 0xED then 0x9F else 0xBF := by split <;> rfl
  constructor
  · rintro ⟨hcode, h1, h2⟩
    dsimp only at hcode h1 h2
    rw [hlow] at h1
    rw [hhigh] at h2
    refine ⟨hcode, ?_, ?_⟩
    · split at h1 <;> omega
    · unfold Nat.isValidChar
      split at h2 <;> omega
  · rintro ⟨hcode, h1, h2⟩
    unfold Nat.isValidChar at h2
    refine ⟨hcode, ?_, ?_⟩
    · dsimp only
      rw [hlow]
      split <;> omega
    · dsimp only
      rw [hhigh]
      split <;> omega

theorem fits_four_iff {b : UInt8} {v : Nat} (h : 0xF0 ≤ b.toNat) (h' : b.toNat < 0xF5) :
    (⟨1, 3, if b.toNat = 0xF0 then 0x90 else 0x80, if b.toNat = 0xF4 then 0x8F else 0xBF,
      b.toNat - 0xF0⟩ : Pending).Fits v ↔
      v / 262144 = b.toNat - 0xF0 ∧ 0x10000 ≤ v ∧ v < 0x110000 := by
  have hlow : (if b.toNat = 0xF0 then 0x90 else 0x80 : UInt8).toNat =
      if b.toNat = 0xF0 then 0x90 else 0x80 := by split <;> rfl
  have hhigh : (if b.toNat = 0xF4 then 0x8F else 0xBF : UInt8).toNat =
      if b.toNat = 0xF4 then 0x8F else 0xBF := by split <;> rfl
  constructor
  · rintro ⟨hcode, h1, h2⟩
    dsimp only at hcode h1 h2
    rw [hlow] at h1
    rw [hhigh] at h2
    refine ⟨hcode, ?_, ?_⟩
    · split at h1 <;> omega
    · split at h2 <;> omega
  · rintro ⟨hcode, h1, h2⟩
    refine ⟨hcode, ?_, ?_⟩
    · dsimp only
      rw [hlow]
      split <;> omega
    · dsimp only
      rw [hhigh]
      split <;> omega

theorem eq_ofNat_add {b : UInt8} {n mark : Nat} (h : n = b.toNat - mark) (hb : mark ≤ b.toNat) :
    b = UInt8.ofNat (n + mark) := by
  have hlt : b.toNat < 256 := b.toNat_lt
  rw [← UInt8.toNat_inj, UInt8.toNat_ofNat']
  omega

/-- The ranges of a first byte. -/
theorem first_cases (b : UInt8) :
    b.toNat < 0x80 ∨ (0x80 ≤ b.toNat ∧ b.toNat < 0xC2 ∨ 0xF5 ≤ b.toNat) ∨
      0xC2 ≤ b.toNat ∧ b.toNat < 0xE0 ∨ 0xE0 ≤ b.toNat ∧ b.toNat < 0xF0 ∨
      0xF0 ≤ b.toNat ∧ b.toNat < 0xF5 := by
  omega

theorem valid_of_start {b : UInt8} {p : Pending} (h : start b = .more p) : p.Valid := by
  rcases first_cases b with hb | hb | ⟨h1, h2⟩ | ⟨h1, h2⟩ | ⟨h1, h2⟩
  · rw [start_one hb] at h
    cases h
  · rw [start_bad hb] at h
    cases h
  · rw [start_two h1 h2] at h
    cases h
    exact ⟨Nat.one_pos, le_rfl, le_rfl⟩
  · rw [start_three h1 h2] at h
    cases h
    refine ⟨Nat.succ_pos _, ?_, ?_⟩ <;> dsimp only <;> split <;> decide
  · rw [start_four h1 h2] at h
    cases h
    refine ⟨Nat.succ_pos _, ?_, ?_⟩ <;> dsimp only <;> split <;> decide

/-- A byte that is a character by itself writes it. -/
theorem encodeChar_of_start_char {b : UInt8} {c : Char} (h : start b = .char c) :
    String.utf8EncodeChar c = [b] := by
  rcases first_cases b with hb | hb | ⟨h1, h2⟩ | ⟨h1, h2⟩ | ⟨h1, h2⟩
  · rw [start_one hb] at h
    cases h
    have hc : (Char.ofNat b.toNat).toNat = b.toNat := toNat_ofNat (Or.inl (by omega))
    rw [encodeChar_one (by omega), hc, UInt8.ofNat_toNat]
  · rw [start_bad hb] at h
    cases h
  · rw [start_two h1 h2] at h
    cases h
  · rw [start_three h1 h2] at h
    cases h
  · rw [start_four h1 h2] at h
    cases h

/-- **A first byte and the continuation bytes of a code that fits write the character of this
code.** -/
theorem encodeChar_of_start {b : UInt8} {p : Pending} {v : Nat} (h : start b = .more p)
    (hfit : p.Fits v) : String.utf8EncodeChar (Char.ofNat v) = b :: continuation p.more v := by
  rcases first_cases b with hb | hb | ⟨h1, h2⟩ | ⟨h1, h2⟩ | ⟨h1, h2⟩
  · rw [start_one hb] at h
    cases h
  · rw [start_bad hb] at h
    cases h
  · rw [start_two h1 h2] at h
    cases h
    rw [fits_plain_iff, pow_one] at hfit
    have hc : (Char.ofNat v).toNat = v := toNat_ofNat (Or.inl (by omega))
    rw [encodeChar_two (by omega) (by omega), hc, ← eq_ofNat_add hfit (by omega)]
  · rw [start_three h1 h2] at h
    cases h
    obtain ⟨hcode, hle, hvalid⟩ := (fits_three_iff h1 h2).1 hfit
    have hc : (Char.ofNat v).toNat = v := toNat_ofNat hvalid
    rw [encodeChar_three (by omega) (by omega), hc, ← eq_ofNat_add hcode (by omega)]
  · rw [start_four h1 h2] at h
    cases h
    obtain ⟨hcode, hle, hlt⟩ := (fits_four_iff h1 h2).1 hfit
    have hc : (Char.ofNat v).toNat = v := toNat_ofNat (Or.inr ⟨by omega, hlt⟩)
    rw [encodeChar_four (by omega), hc, ← eq_ofNat_add hcode (by omega)]

/-- **Every character above U+007F fits some first byte.** -/
theorem exists_start (c : Char) (h : 0x80 ≤ c.toNat) :
    ∃ b p, start b = .more p ∧ p.Fits c.toNat := by
  have hvalid := isValidChar_toNat c
  have hbyte : ∀ n : Nat, n < 256 → (UInt8.ofNat n).toNat = n := by
    intro n hn
    rw [UInt8.toNat_ofNat', Nat.mod_eq_of_lt hn]
  by_cases h2 : c.toNat < 0x800
  · have hb := hbyte (c.toNat / 64 + 0xC0) (by omega)
    have h1 : 0xC2 ≤ (UInt8.ofNat (c.toNat / 64 + 0xC0)).toNat := by omega
    refine ⟨_, _, start_two h1 (by omega), ?_⟩
    rw [fits_plain_iff, hb, pow_one]
    omega
  by_cases h3 : c.toNat < 0x10000
  · have hb := hbyte (c.toNat / 4096 + 0xE0) (by omega)
    have h1 : 0xE0 ≤ (UInt8.ofNat (c.toNat / 4096 + 0xE0)).toNat := by omega
    have h2 : (UInt8.ofNat (c.toNat / 4096 + 0xE0)).toNat < 0xF0 := by omega
    refine ⟨_, _, start_three h1 h2, (fits_three_iff h1 h2).2 ⟨by omega, by omega, hvalid⟩⟩
  · have hlt : c.toNat < 0x110000 := by
      rcases hvalid with h | h <;> omega
    have hb := hbyte (c.toNat / 262144 + 0xF0) (by omega)
    have h1 : 0xF0 ≤ (UInt8.ofNat (c.toNat / 262144 + 0xF0)).toNat := by omega
    have h2 : (UInt8.ofNat (c.toNat / 262144 + 0xF0)).toNat < 0xF5 := by omega
    refine ⟨_, _, start_four h1 h2, (fits_four_iff h1 h2).2 ⟨by omega, by omega, hlt⟩⟩

/-! ### Characters -/

@[simp] theorem encode_cons (c : Char) (cs : List Char) :
    encode (c :: cs) = String.utf8EncodeChar c ++ encode cs := by
  simp [encode]

/-- What is written is read back. -/
theorem decodeFrom_encode (ds : List Char) (index : Nat) (done : List Char) :
    decodeFrom index none done (encode ds) = .ok (done.reverse ++ ds) := by
  induction ds generalizing index done with
  | nil => simp [decodeFrom]
  | cons c ds ih =>
    rw [encode_cons]
    by_cases h : c.toNat < 0x80
    · have hb : (UInt8.ofNat c.toNat).toNat = c.toNat := by
        rw [UInt8.toNat_ofNat', Nat.mod_eq_of_lt (by omega)]
      rw [encodeChar_one h, List.singleton_append, decodeFrom, start_one (by omega), hb,
        Char.ofNat_toNat]
      dsimp only
      rw [ih, List.reverse_cons, List.append_assoc, List.singleton_append]
    · obtain ⟨b, p, hstart, hfit⟩ := exists_start c (by omega)
      have hbytes := encodeChar_of_start hstart hfit
      rw [Char.ofNat_toNat] at hbytes
      rw [hbytes, List.cons_append, decodeFrom, hstart]
      dsimp only
      rw [decodeFrom_some_eq_ok_iff (valid_of_start hstart)]
      refine ⟨c.toNat, encode ds, hfit, rfl, ?_⟩
      rw [ih, Char.ofNat_toNat, List.reverse_cons, List.append_assoc, List.singleton_append]

/-- What is read is the written form of what it is read as. -/
theorem exists_of_decodeFrom_eq_ok {index : Nat} {done cs : List Char} {bs : Bytes}
    (h : decodeFrom index none done bs = .ok cs) :
    ∃ ds, cs = done.reverse ++ ds ∧ bs = encode ds := by
  obtain ⟨n, hn⟩ : ∃ n, bs.length ≤ n := ⟨_, le_rfl⟩
  -- a character takes at least one byte, so the rest of the bytes is shorter
  induction n generalizing index done bs with
  | zero =>
    obtain rfl : bs = [] := List.eq_nil_of_length_eq_zero (by omega)
    simp only [decodeFrom, Except.ok.injEq] at h
    exact ⟨[], by simp [h], rfl⟩
  | succ n ih =>
    cases bs with
    | nil =>
      simp only [decodeFrom, Except.ok.injEq] at h
      exact ⟨[], by simp [h], rfl⟩
    | cons b bs =>
      rw [List.length_cons] at hn
      rw [decodeFrom] at h
      cases hstart : start b with
      | bad => simp [hstart] at h
      | char c =>
        simp only [hstart] at h
        obtain ⟨ds, rfl, rfl⟩ := ih h (by omega)
        refine ⟨c :: ds, by simp, ?_⟩
        rw [encode_cons, encodeChar_of_start_char hstart, List.singleton_append]
      | more p =>
        simp only [hstart] at h
        rw [decodeFrom_some_eq_ok_iff (valid_of_start hstart)] at h
        obtain ⟨v, rest, hfit, rfl, h⟩ := h
        rw [List.length_append] at hn
        obtain ⟨ds, rfl, rfl⟩ := ih h (by omega)
        refine ⟨Char.ofNat v :: ds, by simp, ?_⟩
        rw [encode_cons, encodeChar_of_start hstart hfit, List.cons_append]

/-- **Bytes are read as characters exactly if they are the bytes of these characters.** -/
theorem decode_eq_ok_iff {bs : Bytes} {cs : List Char} : decode bs = .ok cs ↔ bs = encode cs := by
  constructor
  · intro h
    obtain ⟨ds, rfl, rfl⟩ := exists_of_decodeFrom_eq_ok h
    rfl
  · rintro rfl
    exact decodeFrom_encode cs 0 []

/-- **Bytes are read as a text exactly if they are its bytes.** -/
theorem text_eq_ok_iff {bs : Bytes} {s : String} : text bs = .ok s ↔ bs = bytes s := by
  rw [bytes_eq_encode, ← decode_eq_ok_iff, text]
  cases decode bs with
  | error e => simp [Except.map]
  | ok cs =>
    simp only [Except.map, Except.ok.injEq]
    constructor
    · rintro rfl
      exact String.toList_ofList.symm
    · rintro rfl
      exact String.ofList_toList

theorem text_bytes (s : String) : text (bytes s) = .ok s :=
  text_eq_ok_iff.2 rfl

end WifiDirect.Utf8
