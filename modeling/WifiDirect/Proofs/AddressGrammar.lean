import WifiDirect.Proofs.AddressText

/-!
# Which texts are read as addresses

`Address.parse?_groups`: a text is read as an address exactly if it is six groups between colons,
each of two hexadecimal digits, the first of which a plus sign may replace. The text of the address
is the one that was read, in lower case and with a zero for each plus sign.

Strictly, a group is two digits (`Address.IsPair`). `Address.parse?_plus` is a text that is read
although its first group is none.
-/

namespace WifiDirect

/-! ### Digits -/

/-- A hexadecimal digit of either case. -/
def IsHexDigit (c : Char) : Prop :=
  '0' ≤ c ∧ c ≤ '9' ∨ 'a' ≤ c ∧ c ≤ 'f' ∨ 'A' ≤ c ∧ c ≤ 'F'

instance (c : Char) : Decidable (IsHexDigit c) := by
  unfold IsHexDigit
  infer_instance

theorem IsHexDigit.ne_colon {c : Char} (h : IsHexDigit c) : c ≠ ':' := by
  rintro rfl
  revert h
  decide

theorem IsHexDigit.ne_plus {c : Char} (h : IsHexDigit c) : c ≠ '+' := by
  rintro rfl
  revert h
  decide

namespace Bytes

theorem exists_hexValue?_iff {c : Char} : (∃ n, hexValue? c = some n) ↔ IsHexDigit c := by
  unfold hexValue? IsHexDigit
  split_ifs with hdigit hlower hupper
  · exact iff_of_true ⟨_, rfl⟩ (.inl hdigit)
  · exact iff_of_true ⟨_, rfl⟩ (.inr (.inl hlower))
  · exact iff_of_true ⟨_, rfl⟩ (.inr (.inr hupper))
  · refine iff_of_false nofun ?_
    rintro (h | h | h)
    · exact hdigit h
    · exact hlower h
    · exact hupper h

theorem toNat_lt_of_isHexDigit {c : Char} (h : IsHexDigit c) : c.toNat < 0x80 := by
  have hle : c ≤ 'f' := by
    rcases h with h | h | h
    · exact Char.le_trans h.2 (by decide)
    · exact h.2
    · exact Char.le_trans h.2 (by decide)
  have hval : c.toNat ≤ 'f'.toNat := hle
  exact hval.trans_lt (by decide)

/-- A digit and its value: in lower case it is the digit that is written for the value. -/
theorem of_hexValue? {c : Char} {n : Nat} (h : hexValue? c = some n) :
    n < 16 ∧ c.toLower = Nat.digitChar n := by
  have htable : ∀ k < 0x80, ∀ n, hexValue? (Char.ofNat k) = some n →
      n < 16 ∧ (Char.ofNat k).toLower = Nat.digitChar n := by
    intro k hk n hn
    have hall : ∀ k < 0x80, (hexValue? (Char.ofNat k)).all fun n =>
        n < 16 ∧ (Char.ofNat k).toLower = Nat.digitChar n := by decide +kernel
    have hk := hall k hk
    rw [hn, Option.all_some] at hk
    exact of_decide_eq_true hk
  have hlt := toNat_lt_of_isHexDigit (exists_hexValue?_iff.1 ⟨n, h⟩)
  rw [← Char.ofNat_toNat c] at h ⊢
  exact htable _ hlt n h

end Bytes

namespace Text

/-- A change of characters that leaves the separator alone changes the parts. -/
theorem join_map {sep : Char} {f : Char → Char} (hf : f sep = sep) (parts : List (List Char)) :
    join sep (parts.map (List.map f)) = (join sep parts).map f := by
  induction parts with
  | nil => rfl
  | cons part parts ih =>
    cases parts with
    | nil => rfl
    | cons p ps =>
      have hrest : join sep (p.map f :: ps.map (List.map f)) = (join sep (p :: ps)).map f := ih
      rw [List.map_cons, List.map_cons, join_cons_cons, hrest, join_cons_cons, List.map_append,
        List.map_cons, hf]

theorem mem_join_of_mem {sep c : Char} {parts : List (List Char)} {part : List Char}
    (hpart : part ∈ parts) (hc : c ∈ part) : c ∈ join sep parts := by
  induction parts with
  | nil => cases hpart
  | cons first parts ih =>
    cases parts with
    | nil =>
      rw [List.mem_singleton] at hpart
      subst hpart
      exact hc
    | cons p ps =>
      rw [join_cons_cons]
      rcases List.mem_cons.1 hpart with rfl | hpart
      · exact List.mem_append_left _ hc
      · exact List.mem_append_right _ (List.mem_cons_of_mem sep (ih hpart))

end Text

namespace Address

/-! ### Groups -/

/-- What is written for a character of an address text: a letter in lower case, and a zero for a
plus sign. -/
def written (c : Char) : Char := if c = '+' then '0' else c.toLower

theorem written_of_ne {c : Char} (h : c ≠ '+') : written c = c.toLower := if_neg h

/-- A group as it should be: two hexadecimal digits. -/
def IsPair (group : List Char) : Prop :=
  ∃ high low, group = [high, low] ∧ IsHexDigit high ∧ IsHexDigit low

/-- A group that is read: a plus sign may stand in place of the first digit. -/
def IsGroup (group : List Char) : Prop :=
  ∃ high low, group = [high, low] ∧ (IsHexDigit high ∨ high = '+') ∧ IsHexDigit low

theorem IsPair.isGroup {group : List Char} (h : IsPair group) : IsGroup group := by
  obtain ⟨high, low, hgroup, hhigh, hlow⟩ := h
  exact ⟨high, low, hgroup, .inl hhigh, hlow⟩

theorem IsGroup.colon_not_mem {group : List Char} (h : IsGroup group) : ':' ∉ group := by
  obtain ⟨high, low, rfl, hhigh, hlow⟩ := h
  have hhigh' : high ≠ ':' := by
    rcases hhigh with hhigh | rfl
    · exact hhigh.ne_colon
    · decide
  simp [hhigh'.symm, hlow.ne_colon.symm]

/-- A group is a pair of digits unless there is a plus sign in it. -/
theorem isPair_iff {group : List Char} : IsPair group ↔ IsGroup group ∧ '+' ∉ group := by
  constructor
  · intro h
    refine ⟨h.isGroup, ?_⟩
    obtain ⟨high, low, rfl, hhigh, hlow⟩ := h
    simp [hhigh.ne_plus.symm, hlow.ne_plus.symm]
  · rintro ⟨⟨high, low, rfl, hhigh, hlow⟩, hplus⟩
    have hne : high ≠ '+' := by
      rintro rfl
      exact hplus List.mem_cons_self
    exact ⟨high, low, rfl, hhigh.resolve_right hne, hlow⟩

/-- The byte of a group: a plus sign counts as a zero. -/
theorem octet?_eq_some_iff {group : List Char} {b : UInt8} :
    octet? group = some b ↔ ∃ high low h l, group = [high, low] ∧
      (Bytes.hexValue? high = some h ∨ high = '+' ∧ h = 0) ∧ Bytes.hexValue? low = some l ∧
        b = UInt8.ofNat (16 * h + l) := by
  have hplus : Bytes.hexValue? '+' = none := by decide
  constructor
  · intro hb
    unfold octet? at hb
    split at hb
    · rename_i low
      obtain ⟨l, hl, rfl⟩ := Option.map_eq_some_iff.1 hb
      exact ⟨'+', low, 0, l, rfl, .inr ⟨rfl, rfl⟩, hl, by simp⟩
    · rename_i high low _
      obtain ⟨h, hh, hb⟩ := Option.bind_eq_some_iff.1 hb
      obtain ⟨l, hl, hb⟩ := Option.bind_eq_some_iff.1 hb
      exact ⟨high, low, h, l, rfl, .inl hh, hl, (Option.some.inj hb).symm⟩
    · cases hb
  · rintro ⟨high, low, h, l, rfl, hhigh, hl, rfl⟩
    by_cases hne : high = '+'
    · subst hne
      obtain rfl : h = 0 := by
        rcases hhigh with hh | ⟨-, rfl⟩
        · rw [hplus] at hh
          cases hh
        · rfl
      rw [octet?, hl, Nat.mul_zero, Nat.zero_add]
      rfl
    · have hh : Bytes.hexValue? high = some h := hhigh.resolve_right fun h => hne h.1
      rw [octet?, Bytes.ofHexPair?, hh, hl]
      · rfl
      · exact hne

theorem exists_octet?_iff {group : List Char} : (∃ b, octet? group = some b) ↔ IsGroup group := by
  constructor
  · rintro ⟨b, hb⟩
    obtain ⟨high, low, h, l, rfl, hhigh, hl, -⟩ := octet?_eq_some_iff.1 hb
    refine ⟨high, low, rfl, ?_, Bytes.exists_hexValue?_iff.1 ⟨l, hl⟩⟩
    rcases hhigh with hh | ⟨hplus, -⟩
    · exact .inl (Bytes.exists_hexValue?_iff.1 ⟨h, hh⟩)
    · exact .inr hplus
  · rintro ⟨high, low, rfl, hhigh, hlow⟩
    obtain ⟨l, hl⟩ := Bytes.exists_hexValue?_iff.2 hlow
    rcases hhigh with hhigh | rfl
    · obtain ⟨h, hh⟩ := Bytes.exists_hexValue?_iff.2 hhigh
      exact ⟨_, octet?_eq_some_iff.2 ⟨high, low, h, l, rfl, .inl hh, hl, rfl⟩⟩
    · exact ⟨_, octet?_eq_some_iff.2 ⟨'+', low, 0, l, rfl, .inr ⟨rfl, rfl⟩, hl, rfl⟩⟩

/-- What is written for the byte of a group. -/
theorem hexPair_of_octet? {group : List Char} {b : UInt8} (hb : octet? group = some b) :
    Bytes.hexPair b = group.map written := by
  obtain ⟨high, low, h, l, rfl, hhigh, hl, rfl⟩ := octet?_eq_some_iff.1 hb
  have hlow : IsHexDigit low := Bytes.exists_hexValue?_iff.1 ⟨l, hl⟩
  obtain ⟨hl16, hlwritten⟩ := Bytes.of_hexValue? hl
  have hhigh' : h < 16 ∧ written high = Nat.digitChar h := by
    rcases hhigh with hh | ⟨rfl, rfl⟩
    · have hdigit : IsHexDigit high := Bytes.exists_hexValue?_iff.1 ⟨h, hh⟩
      rw [written_of_ne hdigit.ne_plus]
      exact Bytes.of_hexValue? hh
    · exact ⟨by decide, rfl⟩
  obtain ⟨hh16, hhwritten⟩ := hhigh'
  have hbyte : (UInt8.ofNat (16 * h + l)).toNat = 16 * h + l := by
    rw [UInt8.toNat_ofNat', Nat.mod_eq_of_lt (by omega)]
  have hdiv : (16 * h + l) / 16 = h := by omega
  have hmod : (16 * h + l) % 16 = l := by omega
  rw [Bytes.hexPair, hbyte, hdiv, hmod, List.map_cons, List.map_cons, List.map_nil, hhwritten,
    written_of_ne hlow.ne_plus, hlwritten]

/-! ### Texts -/

/-- A text is six groups of a kind between colons. -/
def InGroups (kind : List Char → Prop) (s : String) : Prop :=
  ∃ groups : List (List Char), groups.length = 6 ∧ s.toList = Text.join ':' groups ∧
    ∀ group ∈ groups, kind group

theorem exists_mapM_octet?_iff {groups : List (List Char)} :
    (∃ bs, groups.mapM octet? = some bs) ↔ ∀ group ∈ groups, IsGroup group := by
  induction groups with
  | nil => simp
  | cons group groups ih =>
    rw [List.forall_mem_cons, ← ih, ← exists_octet?_iff]
    simp only [List.mapM_cons, Option.bind_eq_bind, Option.bind_eq_some_iff, Option.pure_def,
      Option.some.injEq]
    constructor
    · rintro ⟨_, b, hb, bs, hbs, -⟩
      exact ⟨⟨b, hb⟩, bs, hbs⟩
    · rintro ⟨⟨b, hb⟩, bs, hbs⟩
      exact ⟨_, b, hb, bs, hbs, rfl⟩

theorem map_hexPair_of_mapM_octet? {groups : List (List Char)} {bs : Bytes}
    (h : groups.mapM octet? = some bs) : bs.map Bytes.hexPair = groups.map (List.map written) := by
  induction groups generalizing bs with
  | nil =>
    cases h
    rfl
  | cons group groups ih =>
    simp only [List.mapM_cons, Option.bind_eq_bind, Option.bind_eq_some_iff, Option.pure_def,
      Option.some.injEq] at h
    obtain ⟨b, hb, rest, hrest, rfl⟩ := h
    rw [List.map_cons, List.map_cons, hexPair_of_octet? hb, ih hrest]

theorem parse?_eq_some_iff {s : String} {a : Address} :
    parse? s = some a ↔ (Text.split ':' s.toList).mapM octet? = some a.octets := by
  simp only [parse?, Option.bind_eq_bind, Option.bind_eq_some_iff, Option.dite_none_right_eq_some]
  constructor
  · rintro ⟨octets, hoctets, hlength, ha⟩
    cases ha
    exact hoctets
  · intro h
    exact ⟨a.octets, h, a.length_octets, rfl⟩

/-- The groups of a text that is read are what stands between its colons. -/
theorem exists_parse?_iff {s : String} : (∃ a, parse? s = some a) ↔ InGroups IsGroup s := by
  constructor
  · rintro ⟨a, ha⟩
    have hread := parse?_eq_some_iff.1 ha
    have hlength : (Text.split ':' s.toList).length = 6 := by
      rw [(length_of_mapM_octet? hread).1, a.length_octets]
    exact ⟨_, hlength, (Text.join_split ':' s.toList).symm, exists_mapM_octet?_iff.1 ⟨_, hread⟩⟩
  · rintro ⟨groups, hlength, htext, hgroups⟩
    have hne : groups ≠ [] := by
      rintro rfl
      cases hlength
    have hsplit : Text.split ':' s.toList = groups := by
      rw [htext]
      exact Text.split_join hne fun group hgroup => (hgroups group hgroup).colon_not_mem
    obtain ⟨octets, hoctets⟩ := exists_mapM_octet?_iff.2 hgroups
    have hsix : octets.length = 6 := by
      rw [← (length_of_mapM_octet? hoctets).1, hlength]
    refine ⟨⟨octets, hsix⟩, parse?_eq_some_iff.2 ?_⟩
    rw [hsplit, hoctets]

theorem chars_of_parse? {s : String} {a : Address} (h : parse? s = some a) :
    a.chars = s.toList.map written := by
  have hread := parse?_eq_some_iff.1 h
  rw [chars, map_hexPair_of_mapM_octet? hread, Text.join_map (by decide), Text.join_split]

/-- A text is in pairs of digits exactly if it is read and has no plus sign. -/
theorem inGroups_isPair_iff {s : String} :
    InGroups IsPair s ↔ (∃ a, parse? s = some a) ∧ '+' ∉ s.toList := by
  rw [exists_parse?_iff]
  constructor
  · rintro ⟨groups, hlength, htext, hgroups⟩
    refine ⟨⟨groups, hlength, htext, fun group hgroup => (hgroups group hgroup).isGroup⟩, ?_⟩
    rw [htext]
    intro hplus
    rcases Text.mem_join hplus with hplus | ⟨group, hgroup, hplus⟩
    · exact absurd hplus (by decide)
    · exact (isPair_iff.1 (hgroups group hgroup)).2 hplus
  · rintro ⟨⟨groups, hlength, htext, hgroups⟩, hplus⟩
    refine ⟨groups, hlength, htext, fun group hgroup => isPair_iff.2 ⟨hgroups group hgroup, ?_⟩⟩
    intro hmem
    rw [htext] at hplus
    exact hplus (Text.mem_join_of_mem hgroup hmem)

/-- **A text is read as an address exactly if it is in six groups**, of which one may begin with a
plus sign. The text of the address is the text that was read, with zeros for the plus signs and in
lower case; so texts in pairs of digits, and only these, are read and written back up to case. -/
theorem parse?_groups (s : String) :
    ((∃ a, parse? s = some a) ↔ InGroups IsGroup s) ∧
      (InGroups IsPair s ↔ (∃ a, parse? s = some a) ∧ '+' ∉ s.toList) ∧
      ∀ a, parse? s = some a → parse? a.text = some a ∧ a.text = s.map written ∧
        (InGroups IsPair s → a.text = s.toLower) := by
  refine ⟨exists_parse?_iff, inGroups_isPair_iff, fun a ha => ?_⟩
  have hchars := chars_of_parse? ha
  have htext : a.text = s.map written := by
    apply String.toList_inj.1
    rw [text, String.toList_ofList, hchars, String.toList_map]
  refine ⟨parse?_text a, htext, fun hpairs => ?_⟩
  have hplus := (inGroups_isPair_iff.1 hpairs).2
  have hlower : s.toLower = s.map Char.toLower := rfl
  rw [htext, hlower]
  apply String.toList_inj.1
  rw [String.toList_map, String.toList_map]
  apply List.map_congr_left
  intro c hc
  refine written_of_ne ?_
  rintro rfl
  exact hplus hc

/-- Letters of either case are read. -/
theorem parse?_groups_mixed :
    parse? "De:aD:bE:Ef:0a:fF" = some ⟨[0xDE, 0xAD, 0xBE, 0xEF, 0x0A, 0xFF], rfl⟩ ∧
      (⟨[0xDE, 0xAD, 0xBE, 0xEF, 0x0A, 0xFF], rfl⟩ : Address).text =
        "De:aD:bE:Ef:0a:fF".map written := by
  have hread : parse? "De:aD:bE:Ef:0a:fF" = some ⟨[0xDE, 0xAD, 0xBE, 0xEF, 0x0A, 0xFF], rfl⟩ := by
    decide
  exact ⟨hread, ((parse?_groups _).2.2 _ hread).2.1⟩

/-- **A plus sign is read as a zero**, although it is no digit. -/
theorem parse?_plus :
    parse? "+a:00:00:00:00:00" = some ⟨[0x0A, 0, 0, 0, 0, 0], rfl⟩ ∧
      ¬ InGroups IsPair "+a:00:00:00:00:00" := by
  refine ⟨by decide, fun hpairs => ?_⟩
  have hplus := (inGroups_isPair_iff.1 hpairs).2
  exact hplus (by decide)

end Address

end WifiDirect
