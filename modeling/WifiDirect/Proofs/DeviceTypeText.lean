import WifiDirect.Peer
import WifiDirect.Proofs.AddressGrammar
import Mathlib.Data.List.Induction

/-!
# Texts of device types

`deviceTypeText_identifies`: no two device types have the same text. A text is that of a device type
exactly if it splits at two hyphens, which it does in one way, into a number, eight upper-case
hexadecimal digits and another number, the numbers below 65536 and without leading zeros; the bytes
of the device type are those that these parts spell.
-/

namespace WifiDirect

/-! ### Decimal numbers -/

namespace Text

/-- The number that decimal digits write. -/
def value (cs : List Char) : Nat := Nat.ofDigitChars 10 cs 0

@[simp] theorem value_toDigits (n : Nat) : value (Nat.toDigits 10 n) = n :=
  Nat.ofDigitChars_ten_toDigits

/-- A digit and its value. -/
theorem digitChar_of_isDigit {c : Char} (h : c.isDigit) :
    c.toNat - '0'.toNat < 10 ∧ Nat.digitChar (c.toNat - '0'.toNat) = c := by
  rw [Char.isDigit, Bool.and_eq_true, decide_eq_true_eq, decide_eq_true_eq] at h
  have hlow : 48 ≤ c.toNat := h.1
  have hhigh : c.toNat ≤ 57 := h.2
  have hzero : '0'.toNat = 48 := rfl
  have hlt : c.toNat - '0'.toNat < 10 := by omega
  refine ⟨hlt, Char.toNat_inj.1 ?_⟩
  rw [Nat.toNat_digitChar_of_lt_ten hlt]
  omega

theorem value_concat (cs : List Char) (c : Char) :
    value (cs ++ [c]) = 10 * value cs + (c.toNat - '0'.toNat) := by
  rw [value, Nat.ofDigitChars_append, Nat.ofDigitChars_cons, Nat.ofDigitChars_nil, value]

/-- The front of a number is a number, and not zero. -/
theorem IsNumeral.of_concat {cs : List Char} {c : Char} (h : IsNumeral (cs ++ [c]))
    (hcs : cs ≠ []) : IsNumeral cs ∧ cs.head? ≠ some '0' := by
  have hhead : (cs ++ [c]).head? = cs.head? := List.head?_append_of_ne_nil cs hcs
  have hne : cs.head? ≠ some '0' := by
    intro hzero
    have hlength := congrArg List.length (h.eq_zero (hhead.trans hzero))
    rw [List.length_append, List.length_singleton, List.length_singleton, Nat.add_eq_right,
      List.length_eq_zero_iff] at hlength
    exact hcs hlength
  exact ⟨⟨hcs, fun d hd => h.isDigit d (List.mem_append_left _ hd), fun hzero => absurd hzero hne⟩,
    hne⟩

/-- **A number is written in one way.** -/
theorem IsNumeral.toDigits_value {cs : List Char} (h : IsNumeral cs) :
    Nat.toDigits 10 (value cs) = cs := by
  -- the last digit is cut off: what stands before it is a number again, and not zero
  induction cs using List.reverseRecOn with
  | nil => exact absurd rfl h.ne_nil
  | append_singleton cs c ih =>
    obtain ⟨hlt, hdigit⟩ :=
      digitChar_of_isDigit (h.isDigit c (List.mem_append_right _ List.mem_cons_self))
    rw [value_concat]
    by_cases hcs : cs = []
    · have hzero : value [] = 0 := rfl
      rw [hcs, hzero, Nat.mul_zero, Nat.zero_add, Nat.toDigits_of_lt_base hlt, hdigit]
      rfl
    · obtain ⟨hfront, hne⟩ := h.of_concat hcs
      have hdigits := ih hfront
      have hpos : 0 < value cs := by
        refine Nat.pos_of_ne_zero fun hzero => hne ?_
        rw [← hdigits, hzero]
        rfl
      rw [← Nat.toDigits_append_toDigits (by decide) hpos hlt, hdigits,
        Nat.toDigits_of_lt_base hlt, hdigit]

end Text

namespace Bytes

/-! ### Big-endian words -/

/-- The two bytes of a number below 65536, most significant first. -/
def bigEndian16 (n : Nat) : Bytes := [UInt8.ofNat (n / 256), UInt8.ofNat n]

/-- Two bytes are those of the number that they are. -/
theorem bigEndian16_ofBigEndian (a b : UInt8) : bigEndian16 (ofBigEndian [a, b]) = [a, b] := by
  have ha : a.toNat < 256 := a.toNat_lt
  have hb : b.toNat < 256 := b.toNat_lt
  have hhigh : UInt8.ofNat ((a.toNat * 256 + b.toNat) / 256) = a := by
    rw [← UInt8.toNat_inj, UInt8.toNat_ofNat']
    omega
  have hlow : UInt8.ofNat (a.toNat * 256 + b.toNat) = b := by
    rw [← UInt8.toNat_inj, UInt8.toNat_ofNat']
    omega
  rw [ofBigEndian_pair, bigEndian16, hhigh, hlow]

/-- A number below 65536 is the one of its two bytes. -/
theorem ofBigEndian_bigEndian16 {n : Nat} (h : n < 65536) :
    ofBigEndian [UInt8.ofNat (n / 256), UInt8.ofNat n] = n := by
  rw [ofBigEndian_pair, UInt8.toNat_ofNat', UInt8.toNat_ofNat']
  omega

end Bytes

/-! ### Upper-case hexadecimal digits -/

/-- A hexadecimal digit in upper case. -/
def IsUpperHexDigit (c : Char) : Prop := '0' ≤ c ∧ c ≤ '9' ∨ 'A' ≤ c ∧ c ≤ 'F'

instance (c : Char) : Decidable (IsUpperHexDigit c) := by
  unfold IsUpperHexDigit
  infer_instance

namespace Bytes

/-- The digits of the values below sixteen in upper case. -/
theorem upper_digitChar {n : Nat} (h : n < 16) :
    IsUpperHexDigit (Nat.digitChar n).toUpper ∧ hexValue? (Nat.digitChar n).toUpper = some n := by
  revert n
  decide

/-- An upper-case digit is the one of its value. -/
theorem toUpper_digitChar {c : Char} {n : Nat} (hc : IsUpperHexDigit c) (h : hexValue? c = some n) :
    n < 16 ∧ (Nat.digitChar n).toUpper = c := by
  have htable : ∀ k < 0x80, IsUpperHexDigit (Char.ofNat k) →
      (hexValue? (Char.ofNat k)).all fun n =>
        n < 16 ∧ (Nat.digitChar n).toUpper = Char.ofNat k := by decide +kernel
  have hlt := toNat_lt_of_isHexDigit (exists_hexValue?_iff.1 ⟨n, h⟩)
  rw [← Char.ofNat_toNat c] at hc h ⊢
  have hall := htable _ hlt hc
  rw [h, Option.all_some] at hall
  exact of_decide_eq_true hall

theorem isUpperHexDigit_of_mem {bs : Bytes} {c : Char} (h : c ∈ (toHex bs).map Char.toUpper) :
    IsUpperHexDigit c := by
  obtain ⟨digit, hdigit, rfl⟩ := List.mem_map.1 h
  obtain ⟨n, hn, rfl⟩ := mem_toHex hdigit
  exact (upper_digitChar hn).1

/-- The digits of bytes in upper case spell them. -/
theorem ofHex?_toUpper_toHex (bs : Bytes) : ofHex? ((toHex bs).map Char.toUpper) = some bs := by
  induction bs with
  | nil => rfl
  | cons b bs ih =>
    have hb : b.toNat < 256 := b.toNat_lt
    refine ofHex?_cons_cons_eq_some_iff.2 ⟨b, bs, ?_, ih, rfl⟩
    rw [← ofHexPair?_hexPair b, ofHexPair?, ofHexPair?, (upper_digitChar (by omega)).2,
      (upper_digitChar (by omega)).2, hexValue?_digitChar (by omega),
      hexValue?_digitChar (by omega)]

/-- **Upper-case digits are those of the bytes that they spell.** -/
theorem toUpper_toHex_of_ofHex? {cs : List Char} {bs : Bytes} (hupper : ∀ c ∈ cs, IsUpperHexDigit c)
    (h : ofHex? cs = some bs) : (toHex bs).map Char.toUpper = cs := by
  induction cs using List.twoStepInduction generalizing bs with
  | nil =>
    cases h
    rfl
  | singleton => cases h
  | cons_cons high low cs ih =>
    obtain ⟨b, tail, hb, htail, rfl⟩ := ofHex?_cons_cons_eq_some_iff.1 h
    obtain ⟨m, hm, hb⟩ := Option.bind_eq_some_iff.1 hb
    obtain ⟨n, hn, hb⟩ := Option.bind_eq_some_iff.1 hb
    obtain rfl : UInt8.ofNat (16 * m + n) = b := Option.some.inj hb
    obtain ⟨hm16, hhigh⟩ := toUpper_digitChar (hupper high (by simp)) hm
    obtain ⟨hn16, hlow⟩ := toUpper_digitChar (hupper low (by simp)) hn
    have hrest := ih (fun c hc => hupper c (by simp [hc])) htail
    have hvalue : (UInt8.ofNat (16 * m + n)).toNat = 16 * m + n := by
      rw [UInt8.toNat_ofNat', Nat.mod_eq_of_lt (by omega)]
    have hdiv : (16 * m + n) / 16 = m := by omega
    have hmod : (16 * m + n) % 16 = n := by omega
    rw [toHex, List.flatMap_cons, hexPair, hvalue, hdiv, hmod, List.map_append, ← toHex, hrest,
      List.map_cons, List.map_cons, List.map_nil, hhigh, hlow]
    rfl

end Bytes

/-! ### Parts -/

/-- A text in three parts between two hyphens. -/
structure DeviceTypeParts where
  category : List Char
  owner : List Char
  subcategory : List Char

namespace DeviceTypeParts

/-- The parts with hyphens between them. -/
def chars (p : DeviceTypeParts) : List Char :=
  p.category ++ '-' :: p.owner ++ '-' :: p.subcategory

/-- Two numbers of two bytes, and between them the digits of four bytes. -/
structure WellFormed (p : DeviceTypeParts) : Prop where
  isNumeral_category : Text.IsNumeral p.category
  category_lt : Text.value p.category < 65536
  length_owner : p.owner.length = 8
  isUpperHexDigit_owner : ∀ c ∈ p.owner, IsUpperHexDigit c
  isNumeral_subcategory : Text.IsNumeral p.subcategory
  subcategory_lt : Text.value p.subcategory < 65536

/-- The bytes that the parts spell: the numbers most significant byte first, and those of the digits
between them. -/
def bytes? (p : DeviceTypeParts) : Option Bytes :=
  (Bytes.ofHex? p.owner).map fun owner =>
    Bytes.bigEndian16 (Text.value p.category) ++ owner ++
      Bytes.bigEndian16 (Text.value p.subcategory)

theorem chars_eq_join (p : DeviceTypeParts) :
    p.chars = Text.join '-' [p.category, p.owner, p.subcategory] := by
  simp only [chars, Text.join, List.append_assoc, List.cons_append]

theorem count_chars (p : DeviceTypeParts) :
    p.chars.count '-' = p.category.count '-' + p.owner.count '-' + p.subcategory.count '-' + 2 := by
  simp only [chars, List.append_assoc, List.cons_append, List.count_append, List.count_cons_self]
  omega

/-- In a text with two hyphens they stand between the parts. -/
theorem split_chars {p : DeviceTypeParts} (h : p.chars.count '-' = 2) :
    Text.split '-' p.chars = [p.category, p.owner, p.subcategory] := by
  have hcount := p.count_chars
  rw [chars_eq_join]
  refine Text.split_join (List.cons_ne_nil _ _) fun part hpart => List.count_eq_zero.1 ?_
  simp only [List.mem_cons, List.not_mem_nil, or_false] at hpart
  rcases hpart with rfl | rfl | rfl <;> omega

/-- **A text with two hyphens is in three parts in one way.** -/
theorem eq_of_chars_eq {p q : DeviceTypeParts} (h : p.chars = q.chars)
    (hcount : p.chars.count '-' = 2) : p = q := by
  have hsplit := split_chars hcount
  rw [h] at hcount
  rw [h, split_chars hcount] at hsplit
  obtain ⟨category, owner, subcategory⟩ := p
  cases hsplit
  rfl

/-- The only hyphens are those between the parts. -/
theorem WellFormed.count_chars {p : DeviceTypeParts} (h : p.WellFormed) :
    p.chars.count '-' = 2 := by
  have hcategory : '-' ∉ p.category := fun hmem =>
    absurd (h.isNumeral_category.isDigit _ hmem) (by decide)
  have howner : '-' ∉ p.owner := fun hmem =>
    absurd (h.isUpperHexDigit_owner _ hmem) (by decide)
  have hsubcategory : '-' ∉ p.subcategory := fun hmem =>
    absurd (h.isNumeral_subcategory.isDigit _ hmem) (by decide)
  rw [DeviceTypeParts.count_chars, List.count_eq_zero.2 hcategory, List.count_eq_zero.2 howner,
    List.count_eq_zero.2 hsubcategory]

/-- **Well-formed parts are the only ones of their text.** -/
theorem WellFormed.chars_eq_iff {p q : DeviceTypeParts} (h : p.WellFormed) :
    p.chars = q.chars ↔ q = p := by
  constructor
  · intro hq
    exact (eq_of_chars_eq hq h.count_chars).symm
  · rintro rfl
    rfl

/-- The parts of a text that a device type has. -/
def ofBytes (c1 c2 o1 o2 o3 o4 s1 s2 : UInt8) : DeviceTypeParts where
  category := Nat.toDigits 10 (Bytes.ofBigEndian [c1, c2])
  owner := (Bytes.toHex [o1, o2, o3, o4]).map Char.toUpper
  subcategory := Nat.toDigits 10 (Bytes.ofBigEndian [s1, s2])

section OfBytes
variable (c1 c2 o1 o2 o3 o4 s1 s2 : UInt8)

theorem wellFormed_ofBytes : (ofBytes c1 c2 o1 o2 o3 o4 s1 s2).WellFormed where
  isNumeral_category := Text.isNumeral_toDigits _
  category_lt := by
    rw [ofBytes, Text.value_toDigits]
    exact Bytes.ofBigEndian_pair_lt c1 c2
  length_owner := rfl
  isUpperHexDigit_owner := fun _ => Bytes.isUpperHexDigit_of_mem
  isNumeral_subcategory := Text.isNumeral_toDigits _
  subcategory_lt := by
    rw [ofBytes, Text.value_toDigits]
    exact Bytes.ofBigEndian_pair_lt s1 s2

theorem bytes?_ofBytes :
    (ofBytes c1 c2 o1 o2 o3 o4 s1 s2).bytes? = some [c1, c2, o1, o2, o3, o4, s1, s2] := by
  rw [bytes?, ofBytes, Bytes.ofHex?_toUpper_toHex, Text.value_toDigits, Text.value_toDigits,
    Bytes.bigEndian16_ofBigEndian, Bytes.bigEndian16_ofBigEndian]
  rfl

end OfBytes

/-- **Well-formed parts are those of the bytes that they spell.** -/
theorem WellFormed.exists_ofBytes {p : DeviceTypeParts} (h : p.WellFormed) {bs : Bytes}
    (hbytes : p.bytes? = some bs) :
    ∃ c1 c2 o1 o2 o3 o4 s1 s2,
      bs = [c1, c2, o1, o2, o3, o4, s1, s2] ∧ p = ofBytes c1 c2 o1 o2 o3 o4 s1 s2 := by
  obtain ⟨owner, howner, rfl⟩ := Option.map_eq_some_iff.1 hbytes
  have hdigits := Bytes.toUpper_toHex_of_ofHex? h.isUpperHexDigit_owner howner
  have hlength : owner.length = 4 := by
    have hlength := congrArg List.length hdigits
    rw [List.length_map, Bytes.length_toHex, h.length_owner] at hlength
    omega
  obtain ⟨o1, o2, o3, o4, rfl⟩ : ∃ o1 o2 o3 o4, owner = [o1, o2, o3, o4] := by
    match owner, hlength with
    | [o1, o2, o3, o4], _ => exact ⟨o1, o2, o3, o4, rfl⟩
  refine ⟨_, _, o1, o2, o3, o4, _, _, rfl, ?_⟩
  rw [ofBytes, hdigits, Bytes.ofBigEndian_bigEndian16 h.category_lt,
    Bytes.ofBigEndian_bigEndian16 h.subcategory_lt, h.isNumeral_category.toDigits_value,
    h.isNumeral_subcategory.toDigits_value]

end DeviceTypeParts

/-! ### The text of a device type -/

theorem deviceTypeText_eq_ok_iff {bs : Bytes} {s : String} :
    deviceTypeText bs = .ok s ↔
      ∃ p : DeviceTypeParts, s.toList = p.chars ∧ p.WellFormed ∧ p.bytes? = some bs := by
  constructor
  · intro h
    unfold deviceTypeText at h
    split at h
    · rename_i c1 c2 o1 o2 o3 o4 s1 s2
      obtain rfl := Except.ok.inj h
      exact ⟨.ofBytes c1 c2 o1 o2 o3 o4 s1 s2, String.toList_ofList,
        DeviceTypeParts.wellFormed_ofBytes .., DeviceTypeParts.bytes?_ofBytes ..⟩
    · cases h
  · rintro ⟨p, hs, hwell, hbytes⟩
    obtain ⟨c1, c2, o1, o2, o3, o4, s1, s2, rfl, rfl⟩ := hwell.exists_ofBytes hbytes
    rw [← String.ofList_toList (s := s), hs]
    rfl

/-- **The text of a device type identifies it.** It splits at its two hyphens in one way, and the
parts are a number, eight upper-case digits and a number that spell the bytes. -/
theorem deviceTypeText_identifies :
    (∀ (a b : Bytes) (s : String),
      deviceTypeText a = .ok s → deviceTypeText b = .ok s → a = b) ∧
    ∀ (bs : Bytes) (s : String), deviceTypeText bs = .ok s ↔
      ∃ p : DeviceTypeParts, (∀ q : DeviceTypeParts, s.toList = q.chars ↔ q = p) ∧
        p.WellFormed ∧ p.bytes? = some bs := by
  constructor
  · intro a b s ha hb
    obtain ⟨p, hp, hwell, ha⟩ := deviceTypeText_eq_ok_iff.1 ha
    obtain ⟨q, hq, -, hb⟩ := deviceTypeText_eq_ok_iff.1 hb
    rw [hwell.chars_eq_iff.1 (hp.symm.trans hq), ha] at hb
    exact Option.some.inj hb
  · intro bs s
    rw [deviceTypeText_eq_ok_iff]
    constructor
    · rintro ⟨p, hs, hwell, hbytes⟩
      refine ⟨p, fun q => ?_, hwell, hbytes⟩
      rw [hs]
      exact hwell.chars_eq_iff
    · rintro ⟨p, hp, hwell, hbytes⟩
      exact ⟨p, (hp p).2 rfl, hwell, hbytes⟩

/-- The device type of a computer, and that no other has its text. -/
theorem deviceTypeText_identifies_computer :
    deviceTypeText [0, 1, 0, 80, 242, 4, 0, 5] = .ok "1-0050F204-5" ∧
      ∀ b : Bytes, deviceTypeText b = .ok "1-0050F204-5" → b = [0, 1, 0, 80, 242, 4, 0, 5] := by
  have htext : deviceTypeText [0, 1, 0, 80, 242, 4, 0, 5] = .ok "1-0050F204-5" := by
    decide +kernel
  exact ⟨htext, fun b hb => deviceTypeText_identifies.1 b _ _ hb htext⟩

end WifiDirect
