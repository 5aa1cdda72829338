import WifiDirect.Address
import WifiDirect.Proofs.Utf8
import Mathlib.Data.List.Basic

/-!
# Addresses as text

The text of a hardware address is read as this address (`Address.parse?_text`). It fills 17 bytes,
and no shorter text is read as an address (`length_bytes_text`, `le_length_bytes_of_parse?`). The
text of an Internet address is read as this address (`Ipv4.parse?_text`).
-/

namespace WifiDirect

/-! ### Parts between separators -/

namespace Text

/-- A part without separators is taken whole. -/
theorem split_append_cons {sep : Char} {part : List Char} (h : sep ∉ part) (cs : List Char) :
    split sep (part ++ sep :: cs) = part :: split sep cs := by
  induction part with
  | nil =>
    rw [List.nil_append, split]
    cases hs : split sep cs with
    | nil => exact absurd hs (split_ne_nil sep cs)
    | cons p ps => simp
  | cons c part ih =>
    have hc : c ≠ sep := fun hc => h (hc ▸ List.mem_cons_self)
    rw [List.cons_append, split, ih fun hmem => h (List.mem_cons_of_mem c hmem)]
    simp [hc]

theorem split_of_not_mem {sep : Char} {cs : List Char} (h : sep ∉ cs) : split sep cs = [cs] := by
  induction cs with
  | nil => rfl
  | cons c cs ih =>
    have hc : c ≠ sep := fun hc => h (hc ▸ List.mem_cons_self)
    rw [split, ih fun hmem => h (List.mem_cons_of_mem c hmem)]
    simp [hc]

theorem join_cons_cons (sep : Char) (part p : List Char) (ps : List (List Char)) :
    join sep (part :: p :: ps) = part ++ sep :: join sep (p :: ps) := rfl

/-- **Parts without separators are found again.** -/
theorem split_join {sep : Char} {parts : List (List Char)} (hne : parts ≠ [])
    (h : ∀ part ∈ parts, sep ∉ part) : split sep (join sep parts) = parts := by
  induction parts with
  | nil => exact absurd rfl hne
  | cons part parts ih =>
    have hpart := h part List.mem_cons_self
    cases parts with
    | nil => exact split_of_not_mem hpart
    | cons p ps =>
      rw [join, split_append_cons hpart, ih (List.cons_ne_nil p ps) fun q hq =>
        h q (List.mem_cons_of_mem part hq)]
      simp

/-- The length of parts of one length with separators between them. -/
theorem length_join (sep : Char) {k : Nat} {parts : List (List Char)} (hne : parts ≠ [])
    (h : ∀ part ∈ parts, part.length = k) :
    (join sep parts).length + 1 = parts.length * (k + 1) := by
  induction parts with
  | nil => exact absurd rfl hne
  | cons part parts ih =>
    have hpart := h part List.mem_cons_self
    cases parts with
    | nil => simp [join, hpart]
    | cons p ps =>
      have hlen := ih (List.cons_ne_nil p ps) fun q hq => h q (List.mem_cons_of_mem part hq)
      rw [join, List.length_append, List.length_cons, hpart, hlen, List.length_cons (a := part)]
      · ring
      · simp

theorem mem_join {sep c : Char} {parts : List (List Char)} (h : c ∈ join sep parts) :
    c = sep ∨ ∃ part ∈ parts, c ∈ part := by
  induction parts with
  | nil => simp [join] at h
  | cons part parts ih =>
    cases parts with
    | nil => exact Or.inr ⟨part, List.mem_cons_self, h⟩
    | cons p ps =>
      rw [join] at h
      · rcases List.mem_append.1 h with h | h
        · exact Or.inr ⟨part, List.mem_cons_self, h⟩
        · rcases List.mem_cons.1 h with rfl | h
          · exact Or.inl rfl
          · rcases ih h with h | ⟨q, hq, hc⟩
            · exact Or.inl h
            · exact Or.inr ⟨q, List.mem_cons_of_mem part hq, hc⟩
      · simp

end Text

/-! ### Hexadecimal digits -/

namespace Bytes

theorem hexValue?_digitChar {n : Nat} (h : n < 16) : hexValue? (Nat.digitChar n) = some n := by
  revert n
  decide

theorem digitChar_ne {n : Nat} (h : n < 16) : Nat.digitChar n ≠ '+' ∧ Nat.digitChar n ≠ ':' := by
  revert n
  decide

theorem toNat_digitChar_lt {n : Nat} (h : n < 16) : (Nat.digitChar n).toNat < 0x80 := by
  revert n
  decide

theorem mem_hexPair {b : UInt8} {c : Char} (h : c ∈ hexPair b) :
    ∃ n < 16, c = Nat.digitChar n := by
  have hb : b.toNat < 256 := b.toNat_lt
  simp only [hexPair, List.mem_cons, List.not_mem_nil, or_false] at h
  rcases h with rfl | rfl
  · exact ⟨_, by omega, rfl⟩
  · exact ⟨_, by omega, rfl⟩

theorem mem_toHex {bs : Bytes} {c : Char} (h : c ∈ toHex bs) : ∃ n < 16, c = Nat.digitChar n := by
  obtain ⟨b, -, hb⟩ := List.mem_flatMap.1 h
  exact mem_hexPair hb

/-- The two digits of a byte spell it. -/
theorem ofHexPair?_hexPair (b : UInt8) :
    ofHexPair? (Nat.digitChar (b.toNat / 16)) (Nat.digitChar (b.toNat % 16)) = some b := by
  have hb : b.toNat < 256 := b.toNat_lt
  rw [ofHexPair?, hexValue?_digitChar (by omega), hexValue?_digitChar (by omega)]
  show some (UInt8.ofNat (16 * (b.toNat / 16) + b.toNat % 16)) = some b
  rw [Nat.div_add_mod, UInt8.ofNat_toNat]

theorem ofHex?_cons_cons_eq_some_iff {high low : Char} {rest : List Char} {bs : Bytes} :
    ofHex? (high :: low :: rest) = some bs ↔
      ∃ b tail, ofHexPair? high low = some b ∧ ofHex? rest = some tail ∧ bs = b :: tail := by
  simp only [ofHex?, Option.bind_eq_bind, Option.bind_eq_some_iff, Option.pure_def,
    Option.some.injEq, eq_comm (a := bs), exists_and_left]

/-- The digits of bytes spell them. -/
theorem ofHex?_toHex (bs : Bytes) : ofHex? (toHex bs) = some bs := by
  induction bs with
  | nil => rfl
  | cons b bs ih => exact ofHex?_cons_cons_eq_some_iff.2 ⟨b, bs, ofHexPair?_hexPair b, ih, rfl⟩

end Bytes

/-! ### Decimal digits -/

namespace Text

/-- The first digit of a number is a zero only if the number is zero. -/
theorem exists_toDigits_eq_cons (n : Nat) :
    ∃ c cs, Nat.toDigits 10 n = c :: cs ∧ c.isDigit ∧ (c = '0' → n = 0) := by
  induction n using Nat.strongRecOn with
  | ind n ih =>
    rw [Nat.toDigits_eq_if (by decide)]
    by_cases h : n < 10
    · rw [if_pos h]
      refine ⟨_, [], rfl, ?_, Nat.digitChar_eq_zero.1⟩
      rw [Nat.isDigit_digitChar]
      exact decide_eq_true h
    · obtain ⟨c, cs, hcs, hc, hzero⟩ := ih (n / 10) (by omega)
      rw [if_neg h, hcs]
      refine ⟨c, _, rfl, hc, fun h0 => ?_⟩
      have hdiv := hzero h0
      omega

/-- A number in decimal digits, without leading zeros. -/
structure IsNumeral (cs : List Char) : Prop where
  ne_nil : cs ≠ []
  isDigit : ∀ c ∈ cs, c.isDigit
  eq_zero : cs.head? = some '0' → cs = ['0']

theorem isNumeral_toDigits (n : Nat) : IsNumeral (Nat.toDigits 10 n) := by
  obtain ⟨c, cs, hcs, -, hzero⟩ := exists_toDigits_eq_cons n
  refine ⟨Nat.toDigits_ne_nil, fun _ => Nat.isDigit_of_mem_toDigits (by decide) (by decide), ?_⟩
  intro hhead
  rw [hcs, List.head?_cons, Option.some.injEq] at hhead
  rw [hzero hhead]
  rfl

end Text

/-! ### Sizes in UTF-8 -/

namespace Utf8

theorem length_le_length_encode (cs : List Char) : cs.length ≤ (encode cs).length := by
  induction cs with
  | nil => simp
  | cons c cs ih =>
    have hc := c.utf8Size_pos
    rw [encode_cons, List.length_append, List.length_cons, String.length_utf8EncodeChar]
    omega

theorem length_encode_of_ascii {cs : List Char} (h : ∀ c ∈ cs, c.toNat < 0x80) :
    (encode cs).length = cs.length := by
  induction cs with
  | nil => rfl
  | cons c cs ih =>
    rw [encode_cons, encodeChar_one (h c List.mem_cons_self), List.length_append,
      ih fun d hd => h d (List.mem_cons_of_mem c hd), List.length_cons]
    simp [Nat.add_comm]

end Utf8

/-! ### Hardware addresses -/

namespace Address

theorem octet?_hexPair (b : UInt8) : octet? (Bytes.hexPair b) = some b := by
  have hb : b.toNat < 256 := b.toNat_lt
  have hne := (Bytes.digitChar_ne (n := b.toNat / 16) (by omega)).1
  rw [Bytes.hexPair, octet?]
  · exact Bytes.ofHexPair?_hexPair b
  · exact hne

theorem mapM_octet?_hexPair (bs : Bytes) : (bs.map Bytes.hexPair).mapM octet? = some bs := by
  induction bs with
  | nil => rfl
  | cons b bs ih => simp [octet?_hexPair, ih]

theorem map_hexPair_ne_nil (a : Address) : a.octets.map Bytes.hexPair ≠ [] := by
  intro h
  have hlen := a.length_octets
  rw [List.map_eq_nil_iff.1 h] at hlen
  cases hlen

/-- **The text of an address is read as this address.** -/
theorem parse?_text (a : Address) : parse? a.text = some a := by
  have hsplit : Text.split ':' a.chars = a.octets.map Bytes.hexPair := by
    refine Text.split_join (map_hexPair_ne_nil a) fun part hpart hmem => ?_
    obtain ⟨b, -, rfl⟩ := List.mem_map.1 hpart
    obtain ⟨n, hn, hc⟩ := Bytes.mem_hexPair hmem
    exact (Bytes.digitChar_ne hn).2 hc.symm
  rw [parse?, text, String.toList_ofList, hsplit, mapM_octet?_hexPair]
  simp [a.length_octets]

/-- The text of an address fills 17 bytes. -/
theorem length_bytes_text (a : Address) : (Utf8.bytes a.text).length = 17 := by
  have hlen : a.chars.length + 1 = 6 * (2 + 1) := by
    rw [chars, Text.length_join ':' (k := 2) (map_hexPair_ne_nil a), List.length_map,
      a.length_octets]
    intro part hpart
    obtain ⟨b, -, rfl⟩ := List.mem_map.1 hpart
    rfl
  have hascii : ∀ c ∈ a.chars, c.toNat < 0x80 := by
    intro c hc
    rcases Text.mem_join hc with rfl | ⟨part, hpart, hc⟩
    · decide
    · obtain ⟨b, -, rfl⟩ := List.mem_map.1 hpart
      obtain ⟨n, hn, rfl⟩ := Bytes.mem_hexPair hc
      exact Bytes.toNat_digitChar_lt hn
  rw [Utf8.bytes_eq_encode, text, String.toList_ofList, Utf8.length_encode_of_ascii hascii]
  omega

/-- A byte of an address text is two characters. -/
theorem length_of_octet? {part : List Char} {b : UInt8} (h : octet? part = some b) :
    part.length = 2 := by
  unfold octet? at h
  split at h
  · rfl
  · rfl
  · cases h

theorem length_of_mapM_octet? {parts : List (List Char)} {bs : Bytes}
    (h : parts.mapM octet? = some bs) :
    parts.length = bs.length ∧ ∀ part ∈ parts, part.length = 2 := by
  induction parts generalizing bs with
  | nil =>
    cases h
    simp
  | cons part parts ih =>
    simp only [List.mapM_cons, Option.bind_eq_bind, Option.bind_eq_some_iff, Option.pure_def,
      Option.some.injEq] at h
    obtain ⟨b, hb, rest, hrest, rfl⟩ := h
    obtain ⟨hlen, hparts⟩ := ih hrest
    refine ⟨by rw [List.length_cons, List.length_cons, hlen], fun q hq => ?_⟩
    rcases List.mem_cons.1 hq with rfl | hq
    · exact length_of_octet? hb
    · exact hparts q hq

/-- A text that is read as an address fills at least 17 bytes. -/
theorem le_length_bytes_of_parse? {s : String} {a : Address} (h : parse? s = some a) :
    17 ≤ (Utf8.bytes s).length := by
  simp only [parse?, Option.bind_eq_bind, Option.bind_eq_some_iff, Option.dite_none_right_eq_some]
    at h
  obtain ⟨octets, hoctets, hlen, -⟩ := h
  obtain ⟨hparts, htwo⟩ := length_of_mapM_octet? hoctets
  have hjoin := Text.length_join ':' (Text.split_ne_nil ':' s.toList) htwo
  rw [Text.join_split, hparts, hlen] at hjoin
  have hle := Utf8.length_le_length_encode s.toList
  rw [Utf8.bytes_eq_encode]
  omega

end Address

/-! ### Internet addresses -/

namespace Ipv4

theorem octet?_toDigits (b : UInt8) : octet? (Nat.toDigits 10 b.toNat) = some b := by
  have hnumeral := Text.isNumeral_toDigits b.toNat
  have hlone : (Nat.toDigits 10 b.toNat).head? = some '0' →
      (Nat.toDigits 10 b.toNat).length = 1 := by
    intro hhead
    rw [hnumeral.eq_zero hhead]
    rfl
  have hlt : Nat.ofDigitChars 10 (Nat.toDigits 10 b.toNat) 0 < 256 := by
    rw [Nat.ofDigitChars_ten_toDigits]
    exact b.toNat_lt
  rw [octet?, if_pos ⟨hnumeral.ne_nil, List.all_eq_true.2 hnumeral.isDigit, hlone, hlt⟩,
    Nat.ofDigitChars_ten_toDigits, UInt8.ofNat_toNat]

theorem mapM_octet?_toDigits (bs : Bytes) :
    (bs.map fun b => Nat.toDigits 10 b.toNat).mapM octet? = some bs := by
  induction bs with
  | nil => rfl
  | cons b bs ih => simp [octet?_toDigits, ih]

/-- **The text of an Internet address is read as this address.** -/
theorem parse?_text (ip : Ipv4) : parse? ip.text = some ip := by
  have hsplit : Text.split '.' ip.chars = ip.octets.map fun b => Nat.toDigits 10 b.toNat := by
    refine Text.split_join nofun fun part hpart hmem => ?_
    obtain ⟨b, -, rfl⟩ := List.mem_map.1 hpart
    have hdigit := Nat.isDigit_of_mem_toDigits (by decide) (by decide) hmem
    exact absurd hdigit (by decide)
  rw [parse?, text, String.toList_ofList, hsplit, mapM_octet?_toDigits]
  exact ofOctets?_octets ip

end Ipv4

end WifiDirect
