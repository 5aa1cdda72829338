import WifiDirect.Proofs.AddressText
import WifiDirect.Proofs.Decoding
import WifiDirect.Proofs.Replacement

/-!
# Names of networks

`networkNameText_lossless`: the name of a network keeps its bytes. Where these are well-formed UTF-8
the name is written by them, and else it is their hexadecimal digits. Hence two networks of one name
have the same bytes, unless the bytes of exactly one of them are well-formed.

Well-formed (`Utf8.WellFormed`) are bytes that spell characters, each in as few bytes as can spell
it (`Utf8.IsCharacter`). Reading accepts these bytes and no others (`Utf8.exists_text_iff`).
-/

namespace WifiDirect

/-! ### Well-formed bytes -/

namespace Utf8

/-- A byte that goes on with a character. -/
def IsTail (b : UInt8) : Prop := 0x80 ≤ b.toNat ∧ b.toNat < 0xC0

/-- Bytes spell a code: the first says how many there are, and each of the others adds six bits. A
code may be spelled in more bytes than it takes. -/
inductive Spells : Bytes → Nat → Prop
  | one {a : UInt8} (ha : a.toNat < 0x80) : Spells [a] a.toNat
  | two {a b : UInt8} (ha : 0xC0 ≤ a.toNat ∧ a.toNat < 0xE0) (hb : IsTail b) :
      Spells [a, b] ((a.toNat - 0xC0) * 64 + (b.toNat - 0x80))
  | three {a b c : UInt8} (ha : 0xE0 ≤ a.toNat ∧ a.toNat < 0xF0) (hb : IsTail b) (hc : IsTail c) :
      Spells [a, b, c] (((a.toNat - 0xE0) * 64 + (b.toNat - 0x80)) * 64 + (c.toNat - 0x80))
  | four {a b c d : UInt8} (ha : 0xF0 ≤ a.toNat ∧ a.toNat < 0xF8) (hb : IsTail b) (hc : IsTail c)
      (hd : IsTail d) :
      Spells [a, b, c, d] ((((a.toNat - 0xF0) * 64 + (b.toNat - 0x80)) * 64 +
        (c.toNat - 0x80)) * 64 + (d.toNat - 0x80))

/-- Bytes are a character: in no fewer bytes its code can be spelled, and it is no surrogate and at
most U+10FFFF. -/
def IsCharacter (bs : Bytes) : Prop :=
  ∃ code, Spells bs code ∧ (∀ bs', Spells bs' code → bs.length ≤ bs'.length) ∧
    ¬ (0xD800 ≤ code ∧ code ≤ 0xDFFF) ∧ code ≤ 0x10FFFF

/-- Bytes are characters one after the other. -/
inductive WellFormed : Bytes → Prop
  | nil : WellFormed []
  | cons {front rest : Bytes} (hfront : IsCharacter front) (hrest : WellFormed rest) :
      WellFormed (front ++ rest)

/-- What so many bytes can spell. -/
theorem Spells.bounds {bs : Bytes} {v : Nat} (h : Spells bs v) :
    bs.length = 1 ∧ v < 0x80 ∨ bs.length = 2 ∧ v < 0x800 ∨ bs.length = 3 ∧ v < 0x10000 ∨
      bs.length = 4 ∧ v < 0x200000 := by
  cases h with
  | one ha => exact .inl ⟨rfl, ha⟩
  | two ha hb =>
    obtain ⟨-, hb⟩ := hb
    exact .inr (.inl ⟨rfl, by omega⟩)
  | three ha hb hc =>
    obtain ⟨-, hb⟩ := hb
    obtain ⟨-, hc⟩ := hc
    exact .inr (.inr (.inl ⟨rfl, by omega⟩))
  | four ha hb hc hd =>
    obtain ⟨-, hb⟩ := hb
    obtain ⟨-, hc⟩ := hc
    obtain ⟨-, hd⟩ := hd
    exact .inr (.inr (.inr ⟨rfl, by omega⟩))

theorem eq_of_sub_eq {mark : Nat} {a b : UInt8} (ha : mark ≤ a.toNat) (hb : mark ≤ b.toNat)
    (h : a.toNat - mark = b.toNat - mark) : a = b :=
  UInt8.toNat_inj.1 (by omega)

/-- The last byte of a spelling is that of the code's low bits. -/
theorem IsTail.inj {b b' : UInt8} {v v' : Nat} (hb : IsTail b) (hb' : IsTail b')
    (h : v * 64 + (b.toNat - 0x80) = v' * 64 + (b'.toNat - 0x80)) : v = v' ∧ b = b' := by
  obtain ⟨hlow, hhigh⟩ := hb
  obtain ⟨hlow', hhigh'⟩ := hb'
  exact ⟨by omega, eq_of_sub_eq hlow hlow' (by omega)⟩

/-- **As many bytes spell a code in one way.** -/
theorem Spells.unique {bs bs' : Bytes} {v v' : Nat} (h : Spells bs v) (h' : Spells bs' v')
    (hv : v = v') (hlength : bs.length = bs'.length) : bs = bs' := by
  cases h <;> cases h' <;> cases hlength
  case one.one => rw [UInt8.toNat_inj.1 hv]
  case two.two ha hb _ _ ha' hb' =>
    obtain ⟨hfirst, rfl⟩ := hb.inj hb' hv
    rw [eq_of_sub_eq ha.1 ha'.1 hfirst]
  case three.three ha hb hc _ _ _ ha' hb' hc' =>
    obtain ⟨hfront, rfl⟩ := hc.inj hc' hv
    obtain ⟨hfirst, rfl⟩ := hb.inj hb' hfront
    rw [eq_of_sub_eq ha.1 ha'.1 hfirst]
  case four.four ha hb hc hd _ _ _ _ ha' hb' hc' hd' =>
    obtain ⟨hthree, rfl⟩ := hd.inj hd' hv
    obtain ⟨htwo, rfl⟩ := hc.inj hc' hthree
    obtain ⟨hfirst, rfl⟩ := hb.inj hb' htwo
    rw [eq_of_sub_eq ha.1 ha'.1 hfirst]

/-! ### Characters -/

/-- The tail bytes of a code. -/
theorem isTail_ofNat (n : Nat) : IsTail (UInt8.ofNat (n % 64 + 0x80)) := by
  rw [IsTail, toNat_ofNat_tail]
  omega

/-- **The bytes that are written for a character spell its code.** -/
theorem spells_encodeChar (c : Char) : Spells (String.utf8EncodeChar c) c.toNat := by
  have hvalid := isValidChar_toNat c
  by_cases h1 : c.toNat < 0x80
  · have ha := UInt8.toNat_ofNat_of_lt' (n := c.toNat) (show _ < 256 by omega)
    rw [encodeChar_one h1]
    have hspells := Spells.one (a := UInt8.ofNat c.toNat) (by omega)
    rwa [ha] at hspells
  by_cases h2 : c.toNat < 0x800
  · have ha := UInt8.toNat_ofNat_of_lt' (n := c.toNat / 64 + 0xC0) (show _ < 256 by omega)
    have hspells := Spells.two (a := UInt8.ofNat (c.toNat / 64 + 0xC0)) (by omega)
      (isTail_ofNat c.toNat)
    rw [ha, toNat_ofNat_tail] at hspells
    rw [encodeChar_two (by omega) h2]
    convert hspells using 1
    · simp [continuation]
    · omega
  by_cases h3 : c.toNat < 0x10000
  · have ha := UInt8.toNat_ofNat_of_lt' (n := c.toNat / 4096 + 0xE0) (show _ < 256 by omega)
    have hspells := Spells.three (a := UInt8.ofNat (c.toNat / 4096 + 0xE0)) (by omega)
      (isTail_ofNat (c.toNat / 64)) (isTail_ofNat c.toNat)
    rw [ha, toNat_ofNat_tail, toNat_ofNat_tail] at hspells
    rw [encodeChar_three (by omega) h3]
    convert hspells using 1
    · simp [continuation]
    · omega
  · have hlt : c.toNat < 0x110000 := by
      rcases hvalid with h | h <;> omega
    have ha := UInt8.toNat_ofNat_of_lt' (n := c.toNat / 262144 + 0xF0) (show _ < 256 by omega)
    have hspells := Spells.four (a := UInt8.ofNat (c.toNat / 262144 + 0xF0)) (by omega)
      (isTail_ofNat (c.toNat / 4096)) (isTail_ofNat (c.toNat / 64)) (isTail_ofNat c.toNat)
    rw [ha, toNat_ofNat_tail, toNat_ofNat_tail, toNat_ofNat_tail] at hspells
    rw [encodeChar_four (by omega)]
    convert hspells using 1
    · simp [continuation]
    · omega

/-- **No fewer bytes spell the code of a character.** -/
theorem length_encodeChar_le {c : Char} {bs : Bytes} (h : Spells bs c.toNat) :
    (String.utf8EncodeChar c).length ≤ bs.length := by
  rcases h.bounds with ⟨hlength, hlt⟩ | ⟨hlength, hlt⟩ | ⟨hlength, hlt⟩ | ⟨hlength, -⟩
  · rw [encodeChar_one hlt, hlength, List.length_singleton]
  · rw [← utf8Size_eq_length, hlength]
    exact utf8Size_le_two hlt
  · rw [← utf8Size_eq_length, hlength]
    exact utf8Size_le_three hlt
  · rw [← utf8Size_eq_length, hlength]
    exact Char.utf8Size_le_four c

/-- **Bytes are a character exactly if they are written for one.** -/
theorem isCharacter_iff {bs : Bytes} :
    IsCharacter bs ↔ ∃ c : Char, bs = String.utf8EncodeChar c := by
  constructor
  · rintro ⟨code, hspells, hleast, hsurrogate, hle⟩
    have hvalid : code.isValidChar := by
      unfold Nat.isValidChar
      omega
    have hcode : (Char.ofNat code).toNat = code := toNat_ofNat hvalid
    have hwritten := spells_encodeChar (Char.ofNat code)
    have hlength := length_encodeChar_le (c := Char.ofNat code) (hcode.symm ▸ hspells)
    rw [hcode] at hwritten
    -- neither spelling is longer than the other, so that they are the same
    exact ⟨Char.ofNat code, hspells.unique hwritten rfl ((hleast _ hwritten).antisymm hlength)⟩
  · rintro ⟨c, rfl⟩
    have hvalid := isValidChar_toNat c
    unfold Nat.isValidChar at hvalid
    exact ⟨c.toNat, spells_encodeChar c, fun _ => length_encodeChar_le, by omega, by omega⟩

theorem wellFormed_encode (cs : List Char) : WellFormed (encode cs) := by
  induction cs with
  | nil => exact .nil
  | cons c cs ih =>
    rw [encode_cons]
    exact .cons (isCharacter_iff.2 ⟨c, rfl⟩) ih

/-- **Bytes are well-formed exactly if they are those of a text.** -/
theorem wellFormed_iff {bs : Bytes} : WellFormed bs ↔ ∃ s : String, bs = bytes s := by
  constructor
  · intro h
    induction h with
    | nil => exact ⟨"", rfl⟩
    | cons hfront _ ih =>
      obtain ⟨c, rfl⟩ := isCharacter_iff.1 hfront
      obtain ⟨s, rfl⟩ := ih
      refine ⟨String.ofList (c :: s.toList), ?_⟩
      rw [bytes_eq_encode, bytes_eq_encode, String.toList_ofList, encode_cons]
  · rintro ⟨s, rfl⟩
    rw [bytes_eq_encode]
    exact wellFormed_encode s.toList

/-- **Well-formed bytes, and no others, are read as a text.** -/
theorem exists_text_iff {bs : Bytes} : (∃ s, text bs = .ok s) ↔ WellFormed bs := by
  rw [wellFormed_iff]
  exact exists_congr fun s => text_eq_ok_iff

instance (bs : Bytes) : Decidable (WellFormed bs) :=
  decidable_of_iff ((text bs).toOption.isSome = true) <| by
    rw [← exists_text_iff, Option.isSome_iff_exists]
    exact exists_congr fun s => Family.toOption_eq_some_iff

/-- Neither a character in too many bytes, nor a surrogate, nor a code above U+10FFFF, nor a
character that breaks off is well-formed. -/
example : ∀ bs ∈ ([[0xC0, 0x80], [0xED, 0xA0, 0x80], [0xF4, 0x90, 0x80, 0x80], [0xE2, 0x82]] :
    List Bytes), ¬ WellFormed bs := by
  decide +kernel

end Utf8

/-! ### Digits -/

/-- A hexadecimal digit in lower case. -/
def IsLowerHexDigit (c : Char) : Prop := '0' ≤ c ∧ c ≤ '9' ∨ 'a' ≤ c ∧ c ≤ 'f'

instance (c : Char) : Decidable (IsLowerHexDigit c) := by
  unfold IsLowerHexDigit
  infer_instance

theorem Bytes.isLowerHexDigit_of_mem_toHex {bs : Bytes} {c : Char} (h : c ∈ toHex bs) :
    IsLowerHexDigit c := by
  have htable : ∀ n < 16, IsLowerHexDigit (Nat.digitChar n) := by decide
  obtain ⟨n, hn, rfl⟩ := mem_toHex h
  exact htable n hn

/-! ### The name of a network -/

theorem networkNameText_of_wellFormed {bs : Bytes} (h : Utf8.WellFormed bs) :
    Utf8.bytes (networkNameText bs) = bs := by
  obtain ⟨s, hs⟩ := Utf8.exists_text_iff.2 h
  rw [networkNameText, hs]
  exact (Utf8.text_eq_ok_iff.1 hs).symm

theorem networkNameText_of_not_wellFormed {bs : Bytes} (h : ¬ Utf8.WellFormed bs) :
    networkNameText bs = String.ofList bs.toHex := by
  rw [networkNameText]
  cases hs : Utf8.text bs with
  | ok s => exact absurd (Utf8.exists_text_iff.1 ⟨s, hs⟩) h
  | error e => rfl

/-- The digits of bytes that are not well-formed spell them. -/
theorem ofHex?_networkNameText {bs : Bytes} (h : ¬ Utf8.WellFormed bs) :
    Bytes.ofHex? (networkNameText bs).toList = some bs := by
  rw [networkNameText_of_not_wellFormed h, String.toList_ofList, Bytes.ofHex?_toHex]

/-- **Of two networks of one name and different bytes exactly one has well-formed bytes.** -/
theorem wellFormed_iff_not_of_networkNameText_eq {bs bs' : Bytes} (hne : bs ≠ bs')
    (h : networkNameText bs = networkNameText bs') :
    Utf8.WellFormed bs ↔ ¬ Utf8.WellFormed bs' := by
  constructor
  · intro hbs hbs'
    refine hne ?_
    rw [← networkNameText_of_wellFormed hbs, h, networkNameText_of_wellFormed hbs']
  · intro hbs'
    by_contra hbs
    have hdigits := ofHex?_networkNameText hbs
    rw [h, ofHex?_networkNameText hbs'] at hdigits
    exact hne (Option.some.inj hdigits).symm

/-- A group that was started has the name of the network that was reported. -/
theorem FullGroupStart.yields_networkName (s : FullGroupStart) :
    Yields (fun g => ∃ ssid, s.ssid? = some ssid ∧
      g.networkName? = some (networkNameText ssid)) s.group :=
  .bind_of_forall fun _ => (checked_requireField _ _).yields.bind fun ssid hssid =>
    .bind_of_forall fun _ => .ok ⟨ssid, hssid, rfl⟩

/-- **Names of networks lose nothing**: a name is written by the bytes where they are well-formed,
and else is the digits that spell them. Hence two reported groups whose names agree and whose bytes
do not have well-formed bytes in exactly one case. -/
theorem networkNameText_lossless :
    (∀ bs, Utf8.WellFormed bs → Utf8.bytes (networkNameText bs) = bs) ∧
    (∀ bs, ¬ Utf8.WellFormed bs → (networkNameText bs).length = 2 * bs.length ∧
      (∀ c ∈ (networkNameText bs).toList, IsLowerHexDigit c) ∧
      Bytes.ofHex? (networkNameText bs).toList = some bs) ∧
    (∀ bs bs', bs ≠ bs' → networkNameText bs = networkNameText bs' →
      (Utf8.WellFormed bs ↔ ¬ Utf8.WellFormed bs')) ∧
    ∀ (s s' : FullGroupStart) (g g' : Group), s.group = .ok g → s'.group = .ok g' →
      s.ssid? ≠ s'.ssid? → g.networkName? = g'.networkName? →
        ∃ bs bs', s.ssid? = some bs ∧ s'.ssid? = some bs' ∧
          (Utf8.WellFormed bs ↔ ¬ Utf8.WellFormed bs') := by
  refine ⟨fun bs => networkNameText_of_wellFormed,
    fun bs hbs => ⟨?_, ?_, ofHex?_networkNameText hbs⟩,
    fun bs bs' => wellFormed_iff_not_of_networkNameText_eq, ?_⟩
  · rw [networkNameText_of_not_wellFormed hbs, String.length_ofList, Bytes.length_toHex]
  · intro c hc
    rw [networkNameText_of_not_wellFormed hbs, String.toList_ofList] at hc
    exact Bytes.isLowerHexDigit_of_mem_toHex hc
  · intro s s' g g' hg hg' hne hname
    obtain ⟨bs, hbs, hgname⟩ := s.yields_networkName g hg
    obtain ⟨bs', hbs', hgname'⟩ := s'.yields_networkName g' hg'
    rw [hgname, hgname', Option.some.injEq] at hname
    rw [hbs, hbs', ne_eq, Option.some.injEq] at hne
    exact ⟨bs, bs', hbs, hbs', wellFormed_iff_not_of_networkNameText_eq hne hname⟩

/-- A network of the lone byte 0xFF is named as one of the two letters of its digits is. -/
theorem networkNameText_lossless_loneByte :
    networkNameText [0xFF] = networkNameText [0x66, 0x66] ∧ ¬ Utf8.WellFormed [0xFF] ∧
      Utf8.WellFormed [0x66, 0x66] ∧
      Bytes.ofHex? (networkNameText [0xFF]).toList = some [0xFF] := by
  have hname : networkNameText [0xFF] = networkNameText [0x66, 0x66] := by decide +kernel
  have hread : Utf8.text [0x66, 0x66] = .ok "ff" := by decide +kernel
  have hletters : Utf8.WellFormed [0x66, 0x66] := Utf8.exists_text_iff.1 ⟨"ff", hread⟩
  obtain ⟨-, hdigits, hone, -⟩ := networkNameText_lossless
  have hbyte : ¬ Utf8.WellFormed [0xFF] := fun h => (hone _ _ (by decide) hname).1 h hletters
  exact ⟨hname, hbyte, hletters, (hdigits _ hbyte).2.2⟩

end WifiDirect
