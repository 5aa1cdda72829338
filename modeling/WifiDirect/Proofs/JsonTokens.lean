import WifiDirect.Json.Printer
import WifiDirect.Json.Token
import WifiDirect.Proofs.AddressText

/-!
# JSON tokens as they are written

The written form of a string or a number is read back as one token, whatever follows a string
(`Token.read?_renderString`) and where nothing follows a number that could be a part of it
(`Token.read?_render`).

A character stands in a string in one of three ways (`Escaped`), and none of them writes a control
character.
-/

namespace WifiDirect.Json

/-! ### Strings -/

/-- How a character stands in a string, and the piece that it is read as. -/
inductive Escaped (c : Char) : List Char → Piece → Prop
  | letter {e : Char} (h : unescape? e = some c) (he : ' ' ≤ e) : Escaped c ['\\', e] (.char c)
  | digits (h : c < ' ') : Escaped c ('\\' :: 'u' :: fourDigits c.toNat) (.unit c.toNat)
  | plain (h : ' ' ≤ c) (hquote : c ≠ '"') (hbackslash : c ≠ '\\') : Escaped c [c] (.char c)

theorem exists_escaped (c : Char) : ∃ p, Escaped c (escape c) p := by
  unfold escape
  split
  · exact ⟨_, .letter (e := '"') rfl (by decide)⟩
  · exact ⟨_, .letter (e := '\\') rfl (by decide)⟩
  · exact ⟨_, .letter (e := 'b') rfl (by decide)⟩
  · exact ⟨_, .letter (e := 'f') rfl (by decide)⟩
  · exact ⟨_, .letter (e := 'n') rfl (by decide)⟩
  · exact ⟨_, .letter (e := 'r') rfl (by decide)⟩
  · exact ⟨_, .letter (e := 't') rfl (by decide)⟩
  · rename_i hquote hbackslash _ _ _ _ _
    split
    · rename_i h
      exact ⟨_, .digits h⟩
    · rename_i h
      exact ⟨_, .plain (Char.not_lt.1 h) hquote hbackslash⟩

theorem pieces?_quote (done : List Piece) (rest : List Char) :
    pieces? done ('"' :: rest) = some (done.reverse, rest) := by
  rw [pieces?.eq_def]
  rfl

theorem pieces?_plain {c : Char} (h : ' ' ≤ c) (hquote : c ≠ '"') (hbackslash : c ≠ '\\')
    (done : List Piece) (rest : List Char) :
    pieces? done (c :: rest) = pieces? (.char c :: done) rest := by
  rw [pieces?.eq_def]
  simp only [if_neg hquote, if_neg hbackslash, if_neg (Char.not_lt.2 h)]

/-- Four hexadecimal digits spell the number that they are written for. -/
theorem unit?_fourDigits {n : Nat} (h : n < 65536) :
    unit? (Nat.digitChar (n / 4096 % 16)) (Nat.digitChar (n / 256 % 16))
      (Nat.digitChar (n / 16 % 16)) (Nat.digitChar (n % 16)) = some n := by
  have hdigit : ∀ m, Bytes.hexValue? (Nat.digitChar (m % 16)) = some (m % 16) := fun m =>
    Bytes.hexValue?_digitChar (Nat.mod_lt m (by decide))
  have hsum : ((n / 4096 % 16 * 16 + n / 256 % 16) * 16 + n / 16 % 16) * 16 + n % 16 = n := by
    omega
  simp only [unit?, hdigit, Option.bind_eq_bind, Option.bind_some, Option.pure_def, hsum]

theorem pieces?_fourDigits {n : Nat} (h : n < 65536) (done : List Piece) (rest : List Char) :
    pieces? done ('\\' :: 'u' :: (fourDigits n ++ rest)) = pieces? (.unit n :: done) rest := by
  rw [fourDigits, pieces?.eq_def]
  simp only [List.cons_append, List.nil_append, unit?_fourDigits h]
  rfl

/-- A unit outside the surrogate pairs is a character of its own. -/
theorem assemble_unit {n : Nat} (h : n < 0xD800) (done : List Char) (ps : List Piece) :
    assemble done (.unit n :: ps) = assemble (Char.ofNat n :: done) ps := by
  have hhigh : isHighSurrogate n = false := by
    simp only [isHighSurrogate, Bool.and_eq_false_iff, decide_eq_false_iff_not]
    omega
  have hlow : isLowSurrogate n = false := by
    simp only [isLowSurrogate, Bool.and_eq_false_iff, decide_eq_false_iff_not]
    omega
  rw [assemble.eq_def]
  simp only [hhigh, hlow]
  rfl

namespace Escaped

variable {c : Char} {cs : List Char} {p : Piece}

/-- What stands for a character is read as one piece. -/
theorem pieces?_append (h : Escaped c cs p) (done : List Piece) (rest : List Char) :
    pieces? done (cs ++ rest) = pieces? (p :: done) rest := by
  cases h with
  | letter h he =>
    rw [List.cons_append, List.cons_append, List.nil_append, pieces?.eq_3, if_neg (by decide),
      if_pos rfl, h]
    -- no letter stands for `u`, which the four digits follow
    rintro _ _ _ _ _ rfl _
    cases h
  | digits h => exact pieces?_fourDigits (lt_trans (b := 32) h (by decide)) done rest
  | plain h hquote hbackslash => exact pieces?_plain h hquote hbackslash done rest

/-- The piece spells the character. -/
theorem assemble_cons (h : Escaped c cs p) (done : List Char) (ps : List Piece) :
    assemble done (p :: ps) = assemble (c :: done) ps := by
  cases h with
  | letter => rw [assemble]
  | plain => rw [assemble]
  | digits h =>
    have hlt : c.toNat < 0xD800 := lt_trans (b := 32) h (by decide)
    rw [assemble_unit hlt, Char.ofNat_toNat]

/-- No control character stands for a character. -/
theorem le_of_mem (h : Escaped c cs p) {d : Char} (hd : d ∈ cs) : ' ' ≤ d := by
  have hhex : ∀ n < 16, ' ' ≤ Nat.digitChar n := by decide
  cases h with
  | letter _ he =>
    simp only [List.mem_cons, List.not_mem_nil, or_false] at hd
    rcases hd with rfl | rfl
    · decide
    · exact he
  | digits h =>
    simp only [fourDigits, List.mem_cons, List.not_mem_nil, or_false] at hd
    rcases hd with rfl | rfl | rfl | rfl | rfl | rfl
    · decide
    · decide
    all_goals exact hhex _ (Nat.mod_lt _ (by decide))
  | plain h =>
    rw [List.mem_singleton.1 hd]
    exact h

end Escaped

/-- The pieces of a text spell the text. -/
theorem exists_pieces (cs : List Char) :
    ∃ ps : List Piece,
      (∀ done rest, pieces? done (cs.flatMap escape ++ rest) = pieces? (ps.reverse ++ done) rest) ∧
      ∀ done, assemble done ps = some (done.reverse ++ cs) := by
  induction cs with
  | nil => exact ⟨[], fun _ _ => rfl, fun done => by rw [assemble, List.append_nil]⟩
  | cons c cs ih =>
    obtain ⟨ps, hpieces, hassemble⟩ := ih
    obtain ⟨p, hp⟩ := exists_escaped c
    refine ⟨p :: ps, fun done rest => ?_, fun done => ?_⟩
    · rw [List.flatMap_cons, List.append_assoc, hp.pieces?_append, hpieces, List.reverse_cons,
        List.append_assoc, List.singleton_append]
    · rw [hp.assemble_cons, hassemble, List.reverse_cons, List.append_assoc, List.singleton_append]

/-- **The written form of a string is read back.** -/
theorem Token.read?_renderString (s : Option String) (rest : List Char) :
    read? (renderString s ++ rest) = some (.string s, rest) := by
  cases s with
  | none =>
    have hpieces : pieces? [] ('\\' :: 'u' :: (fourDigits 0xD800 ++ '"' :: rest)) =
        some ([.unit 0xD800], rest) := by
      rw [pieces?_fourDigits (by decide), pieces?_quote]
      rfl
    show (readString? ('\\' :: 'u' :: (fourDigits 0xD800 ++ '"' :: rest))).map _ = _
    rw [readString?, hpieces]
    rfl
  | some s =>
    obtain ⟨ps, hpieces, hassemble⟩ := exists_pieces s.toList
    have hread : pieces? [] (s.toList.flatMap escape ++ '"' :: rest) = some (ps, rest) := by
      rw [hpieces, pieces?_quote, List.append_nil, List.reverse_reverse]
    rw [renderString, List.append_assoc, List.singleton_append, List.cons_append, Token.read?,
      readString?, hread]
    simp only [Option.map_some, hassemble, List.reverse_nil, List.nil_append, String.ofList_toList]

theorem le_of_all {cs : List Char} {c : Char} (hall : cs.all (fun c => ' ' ≤ c) = true)
    (h : c ∈ cs) : ' ' ≤ c :=
  of_decide_eq_true (List.all_eq_true.1 hall c h)

theorem le_of_mem_renderString {s : Option String} {c : Char} (h : c ∈ renderString s) :
    ' ' ≤ c := by
  cases s with
  | none => exact le_of_all (by decide) h
  | some s =>
    simp only [renderString, List.cons_append, List.mem_cons, List.mem_append, List.mem_flatMap,
      List.not_mem_nil, or_false] at h
    rcases h with rfl | ⟨d, -, hd⟩ | rfl
    · decide
    · obtain ⟨p, hp⟩ := exists_escaped d
      exact hp.le_of_mem hd
    · decide

/-! ### Numbers -/

/-- Nothing follows that could be a part of a number. -/
def Closes (rest : List Char) : Prop :=
  ∀ c ∈ rest.head?, c = ',' ∨ c = ']' ∨ c = '}'

theorem closes_nil : Closes [] := nofun

theorem closes_cons {c : Char} (h : c = ',' ∨ c = ']' ∨ c = '}') (rest : List Char) :
    Closes (c :: rest) := by
  rintro d hd
  cases hd
  exact h

theorem Closes.head_ne {c : Char} {rest : List Char} (h : Closes (c :: rest)) :
    ¬ c.isDigit ∧ c ≠ '.' ∧ c ≠ 'e' ∧ c ≠ 'E' := by
  rcases h c rfl with rfl | rfl | rfl
  all_goals decide

/-- No digit follows. -/
def NoDigit (rest : List Char) : Prop :=
  ∀ c ∈ rest.head?, ¬ c.isDigit

theorem noDigit_cons {c : Char} (h : ¬ c.isDigit) (rest : List Char) : NoDigit (c :: rest) := by
  rintro d hd
  cases hd
  exact h

theorem Closes.noDigit {rest : List Char} (h : Closes rest) : NoDigit rest := by
  cases rest with
  | nil => exact nofun
  | cons c rest => exact noDigit_cons h.head_ne.1 rest

/-- A run of digits ends where no digit follows. -/
theorem readDigits?_append {digits rest : List Char} (hne : digits ≠ [])
    (hdigits : ∀ c ∈ digits, c.isDigit) (hrest : NoDigit rest) :
    readDigits? (digits ++ rest) = some (digits, rest) := by
  have hstop : rest.takeWhile Char.isDigit = [] ∧ rest.dropWhile Char.isDigit = rest := by
    cases rest with
    | nil => exact ⟨rfl, rfl⟩
    | cons c rest =>
      have hc := hrest c rfl
      exact ⟨List.takeWhile_cons_of_neg hc, List.dropWhile_cons_of_neg hc⟩
  rw [readDigits?, List.takeWhile_append_of_pos hdigits, List.dropWhile_append_of_pos hdigits,
    hstop.1, hstop.2, List.append_nil]
  cases digits with
  | nil => exact absurd rfl hne
  | cons c digits => rfl

theorem readDigits?_toDigits (n : Nat) {rest : List Char} (hrest : NoDigit rest) :
    readDigits? (Nat.toDigits 10 n ++ rest) = some (Nat.toDigits 10 n, rest) :=
  readDigits?_append Nat.toDigits_ne_nil
    (fun _ => Nat.isDigit_of_mem_toDigits (by decide) (by decide)) hrest

theorem readWhole?_toDigits (n : Nat) {rest : List Char} (hrest : NoDigit rest) :
    readWhole? (Nat.toDigits 10 n ++ rest) = some (n, rest) := by
  by_cases h : n = 0
  · rw [h]
    rfl
  · obtain ⟨c, cs, hcs, -, hzero⟩ := Text.exists_toDigits_eq_cons n
    rw [readWhole?.eq_2, readDigits?_toDigits n hrest, Option.map_some]
    · dsimp only
      rw [Nat.ofDigitChars_ten_toDigits]
    · intro rest' heq
      rw [hcs] at heq
      exact h (hzero (List.cons.inj heq).1)

/-- The digits after a point are read back. -/
theorem readFraction?_digits {digits : List (Fin 10)} (hne : digits ≠ []) {rest : List Char}
    (hrest : NoDigit rest) :
    readFraction? ('.' :: (digits.map (fun d => Nat.digitChar d.val) ++ rest)) =
      some (digits, rest) := by
  have hback : (digits.map fun d => Nat.digitChar d.val).map
      (fun c => Fin.ofNat 10 (c.toNat - '0'.toNat)) = digits := by
    rw [List.map_map]
    refine List.map_id'' (fun d => Fin.ext ?_) _
    show ((Nat.digitChar d.val).toNat - 48) % 10 = d.val
    rw [Nat.toNat_digitChar_sub_48_of_lt_ten d.isLt, Nat.mod_eq_of_lt d.isLt]
  have hdigits : ∀ c ∈ digits.map fun d => Nat.digitChar d.val, c.isDigit := by
    intro c hc
    obtain ⟨d, -, rfl⟩ := List.mem_map.1 hc
    rw [Nat.isDigit_digitChar]
    exact decide_eq_true d.isLt
  have hdigitsNe : (digits.map fun d => Nat.digitChar d.val) ≠ [] := by
    rwa [ne_eq, List.map_eq_nil_iff]
  rw [readFraction?, readDigits?_append hdigitsNe hdigits hrest, Option.map_some]
  dsimp only
  rw [hback]

/-- A power of ten is read back. -/
theorem readPower?_toDigits (i : Int) {rest : List Char} (hrest : NoDigit rest) :
    readPower? ((if i < 0 then ['-'] else []) ++ Nat.toDigits 10 i.natAbs ++ rest) =
      some (i, rest) := by
  by_cases h : i < 0
  · rw [if_pos h, List.append_assoc, List.singleton_append, readPower?,
      readDigits?_toDigits _ hrest, Option.map_some]
    dsimp only
    rw [Nat.ofDigitChars_ten_toDigits, Option.some.injEq, Prod.mk.injEq]
    exact ⟨by omega, rfl⟩
  · obtain ⟨c, cs, hcs, hc, -⟩ := Text.exists_toDigits_eq_cons i.natAbs
    rw [if_neg h, List.nil_append, readPower?.eq_3, readDigits?_toDigits _ hrest, Option.map_some]
    · dsimp only
      rw [Nat.ofDigitChars_ten_toDigits, Option.some.injEq, Prod.mk.injEq]
      exact ⟨by omega, rfl⟩
    all_goals
      intro rest' heq
      rw [hcs, List.cons_append, List.cons.injEq] at heq
      rw [heq.1] at hc
      exact absurd hc (by decide)

/-- The exponent of a number as it is written. -/
def exponentChars : Option Int → List Char
  | none => []
  | some i => 'e' :: (if i < 0 then ['-'] else []) ++ Nat.toDigits 10 i.natAbs

/-- The fraction of a number as it is written. -/
def fractionChars : List (Fin 10) → List Char
  | [] => []
  | digits => '.' :: digits.map fun d => Nat.digitChar d.val

theorem Number.render_eq (n : Number) :
    n.render = (if n.negative then ['-'] else []) ++ Nat.toDigits 10 n.whole ++
      fractionChars n.fraction ++ exponentChars n.exponent := by
  obtain ⟨negative, whole, fraction, exponent⟩ := n
  cases fraction <;> cases exponent <;> rfl

theorem readExponent?_exponentChars (exponent : Option Int) {rest : List Char}
    (hrest : Closes rest) :
    readExponent? (exponentChars exponent ++ rest) = some (exponent, rest) := by
  cases exponent with
  | none =>
    rw [exponentChars, List.nil_append, readExponent?.eq_3]
    · rintro rest' rfl
      exact hrest.head_ne.2.2.1 rfl
    · rintro rest' rfl
      exact hrest.head_ne.2.2.2 rfl
  | some i =>
    rw [exponentChars, List.cons_append, List.cons_append, readExponent?,
      readPower?_toDigits i hrest.noDigit]
    rfl

theorem noDigit_exponentChars (exponent : Option Int) {rest : List Char} (hrest : Closes rest) :
    NoDigit (exponentChars exponent ++ rest) := by
  cases exponent with
  | none => exact hrest.noDigit
  | some i => exact noDigit_cons (by decide) _

theorem readFraction?_fractionChars (fraction : List (Fin 10)) (exponent : Option Int)
    {rest : List Char} (hrest : Closes rest) :
    readFraction? (fractionChars fraction ++ (exponentChars exponent ++ rest)) =
      some (fraction, exponentChars exponent ++ rest) := by
  cases fraction with
  | nil =>
    rw [fractionChars, List.nil_append, readFraction?.eq_2]
    intro rest' heq
    cases exponent with
    | none =>
      rw [exponentChars, List.nil_append] at heq
      rw [heq] at hrest
      exact hrest.head_ne.2.1 rfl
    | some i =>
      rw [exponentChars, List.cons_append, List.cons_append, List.cons.injEq] at heq
      exact absurd heq.1 (by decide)
  | cons d digits =>
    exact readFraction?_digits (List.cons_ne_nil d digits) (noDigit_exponentChars exponent hrest)

theorem noDigit_fractionChars (fraction : List (Fin 10)) (exponent : Option Int)
    {rest : List Char} (hrest : Closes rest) :
    NoDigit (fractionChars fraction ++ (exponentChars exponent ++ rest)) := by
  cases fraction with
  | nil => exact noDigit_exponentChars exponent hrest
  | cons d digits => exact noDigit_cons (by decide) _

/-- A number begins with a minus sign or a digit. -/
theorem Number.exists_render_eq_cons (n : Number) :
    ∃ c cs, n.render = c :: cs ∧ (c = '-' ∨ c.isDigit) := by
  obtain ⟨c, cs, hcs, hc, -⟩ := Text.exists_toDigits_eq_cons n.whole
  rw [n.render_eq, hcs]
  cases n.negative with
  | false => exact ⟨c, _, rfl, Or.inr hc⟩
  | true => exact ⟨'-', _, rfl, Or.inl rfl⟩

/-- The written form of a number is read back. -/
theorem readNumber?_render (n : Number) {rest : List Char} (hrest : Closes rest) :
    readNumber? (n.render ++ rest) = some (n, rest) := by
  have hsign : readSign ((if n.negative then ['-'] else []) ++ (Nat.toDigits 10 n.whole ++
      (fractionChars n.fraction ++ (exponentChars n.exponent ++ rest)))) =
      (n.negative, Nat.toDigits 10 n.whole ++
        (fractionChars n.fraction ++ (exponentChars n.exponent ++ rest))) := by
    cases n.negative with
    | true => rfl
    | false =>
      obtain ⟨c, cs, hcs, hc, -⟩ := Text.exists_toDigits_eq_cons n.whole
      rw [if_neg (by decide), List.nil_append, hcs, List.cons_append, readSign]
      rintro rest' heq
      rw [(List.cons.inj heq).1] at hc
      exact absurd hc (by decide)
  rw [n.render_eq, List.append_assoc, List.append_assoc, List.append_assoc, readNumber?, hsign]
  simp only [readWhole?_toDigits n.whole (noDigit_fractionChars n.fraction n.exponent hrest),
    readFraction?_fractionChars n.fraction n.exponent hrest,
    readExponent?_exponentChars n.exponent hrest, Option.bind_eq_bind, Option.bind_some,
    Option.pure_def]

/-- **The written form of a number is read back** where nothing follows that could be a part
of it. -/
theorem Token.read?_render (n : Number) {rest : List Char} (hrest : Closes rest) :
    read? (n.render ++ rest) = some (.number n, rest) := by
  obtain ⟨c, cs, hcs, hc⟩ := n.exists_render_eq_cons
  rw [Token.read?.eq_11, readNumber?_render n hrest]
  · rfl
  all_goals
    intro rest' heq
    rw [hcs, List.cons_append, List.cons.injEq] at heq
    rw [heq.1] at hc
    exact absurd hc (by decide)

end WifiDirect.Json
