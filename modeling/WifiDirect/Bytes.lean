/-!
# Bytes

Words as bytes in either order, bytes as hexadecimal text, and cutting a run of bytes in two.
Bytes are the word that they are read as (`littleEndian_ofLittleEndian`), and a cut loses nothing
(`splitExact_eq_some_iff`).
-/

namespace WifiDirect

/-- A run of bytes. -/
abbrev Bytes := List UInt8

namespace Bytes

/-! ### Words -/

/-- The `k` low bytes of `n`, least significant first. -/
def littleEndian : Nat → Nat → Bytes
  | 0, _ => []
  | k + 1, n => UInt8.ofNat n :: littleEndian k (n / 256)

/-- The number whose bytes these are, least significant first. -/
def ofLittleEndian : Bytes → Nat
  | [] => 0
  | b :: bs => b.toNat + 256 * ofLittleEndian bs

/-- The number whose bytes these are, most significant first. -/
def ofBigEndian (bs : Bytes) : Nat :=
  bs.foldl (fun n b => n * 256 + b.toNat) 0

theorem ofBigEndian_pair (a b : UInt8) : ofBigEndian [a, b] = a.toNat * 256 + b.toNat := by
  simp [ofBigEndian]

/-- Two bytes are a number below 65536. -/
theorem ofBigEndian_pair_lt (a b : UInt8) : ofBigEndian [a, b] < 65536 := by
  have ha : a.toNat < 256 := a.toNat_lt
  have hb : b.toNat < 256 := b.toNat_lt
  rw [ofBigEndian_pair]
  omega

@[simp] theorem length_littleEndian (k n : Nat) : (littleEndian k n).length = k := by
  induction k generalizing n with
  | zero => rfl
  | succ k ih => simp [littleEndian, ih]

/-- Writing the value of `k` bytes gives these bytes again. -/
theorem littleEndian_ofLittleEndian (bs : Bytes) :
    littleEndian bs.length (ofLittleEndian bs) = bs := by
  induction bs with
  | nil => rfl
  | cons b bs ih =>
    have hb : b.toNat < 256 := b.toNat_lt
    have hdiv : (b.toNat + 256 * ofLittleEndian bs) / 256 = ofLittleEndian bs := by omega
    have hmod : UInt8.ofNat (b.toNat + 256 * ofLittleEndian bs) = b := by
      apply UInt8.toNat.inj
      simp
    simp only [List.length_cons, ofLittleEndian, littleEndian, hdiv, hmod, ih]

/-! ### Cutting -/

/-- The first `k` bytes and the rest, if there are `k`. -/
def splitExact (k : Nat) (bs : Bytes) : Option (Bytes × Bytes) :=
  let front := bs.take k
  if front.length = k then some (front, bs.drop k) else none

/-- **A cut gives a front of exactly `k` bytes and loses nothing.** -/
theorem splitExact_eq_some_iff {k : Nat} {bs front rest : Bytes} :
    splitExact k bs = some (front, rest) ↔ front.length = k ∧ bs = front ++ rest := by
  constructor
  · intro h
    by_cases hk : (bs.take k).length = k
    · simp only [splitExact, hk, if_true, Option.some.injEq, Prod.mk.injEq] at h
      obtain ⟨rfl, rfl⟩ := h
      exact ⟨hk, (List.take_append_drop k bs).symm⟩
    · simp only [splitExact, hk, if_false, reduceCtorEq] at h
  · rintro ⟨rfl, rfl⟩
    simp [splitExact]

theorem splitExact_eq_none_iff {k : Nat} {bs : Bytes} :
    splitExact k bs = none ↔ bs.length < k := by
  simp only [splitExact, List.length_take]
  split <;> simp <;> omega

@[simp] theorem splitExact_append (front rest : Bytes) :
    splitExact front.length (front ++ rest) = some (front, rest) :=
  splitExact_eq_some_iff.2 ⟨rfl, rfl⟩

/-- The big-endian word of two bytes at `offset`, if the bytes reach that far. -/
def word16At (offset : Nat) (bs : Bytes) : Option UInt16 :=
  (splitExact 2 (bs.drop offset)).map fun (word, _) => UInt16.ofNat (ofBigEndian word)

/-- There is a word where two bytes are left. -/
theorem isSome_word16At {offset : Nat} {bs : Bytes} :
    (word16At offset bs).isSome ↔ offset + 2 ≤ bs.length := by
  rw [word16At, Option.isSome_map, Option.isSome_iff_ne_none, ne_eq, splitExact_eq_none_iff,
    List.length_drop]
  omega

/-! ### Hexadecimal text -/

/-- The two hexadecimal digits of a byte, in lower case. -/
def hexPair (b : UInt8) : List Char :=
  [Nat.digitChar (b.toNat / 16), Nat.digitChar (b.toNat % 16)]

/-- The bytes as pairs of lower-case hexadecimal digits. -/
def toHex (bs : Bytes) : List Char :=
  bs.flatMap hexPair

/-- The value of a hexadecimal digit of either case. -/
def hexValue? (c : Char) : Option Nat :=
  if '0' ≤ c ∧ c ≤ '9' then some (c.toNat - '0'.toNat)
  else if 'a' ≤ c ∧ c ≤ 'f' then some (c.toNat - 'a'.toNat + 10)
  else if 'A' ≤ c ∧ c ≤ 'F' then some (c.toNat - 'A'.toNat + 10)
  else none

/-- The byte that two hexadecimal digits spell. -/
def ofHexPair? (high low : Char) : Option UInt8 := do
  let h ← hexValue? high
  let l ← hexValue? low
  return UInt8.ofNat (16 * h + l)

/-- The bytes that pairs of hexadecimal digits spell. -/
def ofHex? : List Char → Option Bytes
  | [] => some []
  | [_] => none
  | high :: low :: rest => do
    let b ← ofHexPair? high low
    let bs ← ofHex? rest
    return b :: bs

theorem length_toHex (bs : Bytes) : (toHex bs).length = 2 * bs.length := by
  induction bs with
  | nil => rfl
  | cons b bs ih => simp [toHex, hexPair] at ih ⊢; omega

end Bytes

end WifiDirect
