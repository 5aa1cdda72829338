import WifiDirect.Bytes
import WifiDirect.Json.Basic

/-!
# JSON tokens

The tokens of JSON text. `Token.read?` takes one off the front of a text that does not begin with a
blank; what it leaves is shorter (`length_lt_of_read?`).
-/

namespace WifiDirect.Json

/-- A token. -/
inductive Token
  | beginArray
  | endArray
  | beginObject
  | endObject
  | comma
  | colon
  | null
  | bool (b : Bool)
  | number (n : Number)
  | string (s : Option String)
  deriving DecidableEq, Repr

/-- The blanks that may stand between tokens. -/
def isBlank (c : Char) : Bool :=
  c == ' ' || c == '\t' || c == '\n' || c == '\r'

/-! ### Strings -/

/-- A piece of a string: a character, or a UTF-16 unit named by its number. -/
inductive Piece
  | char (c : Char)
  | unit (n : Nat)
  deriving DecidableEq, Repr

/-- The character that a one-letter escape stands for. -/
def unescape? (c : Char) : Option Char :=
  match c with
  | '"' => some '"'
  | '\\' => some '\\'
  | '/' => some '/'
  | 'b' => some '\x08'
  | 'f' => some '\x0c'
  | 'n' => some '\n'
  | 'r' => some '\r'
  | 't' => some '\t'
  | _ => none

/-- The number that four hexadecimal digits spell. -/
def unit? (a b c d : Char) : Option Nat := do
  let a ← Bytes.hexValue? a
  let b ← Bytes.hexValue? b
  let c ← Bytes.hexValue? c
  let d ← Bytes.hexValue? d
  return ((a * 16 + b) * 16 + c) * 16 + d

/-- The pieces of a string up to its closing quote, and what follows that. Control characters have
to be escaped. -/
def pieces? (done : List Piece) : List Char → Option (List Piece × List Char)
  | [] => none
  | c :: rest =>
    if c = '"' then some (done.reverse, rest)
    else if c = '\\' then
      match rest with
      | 'u' :: h1 :: h2 :: h3 :: h4 :: rest =>
        match unit? h1 h2 h3 h4 with
        | some n => pieces? (.unit n :: done) rest
        | none => none
      | e :: rest =>
        match unescape? e with
        | some c => pieces? (.char c :: done) rest
        | none => none
      | [] => none
    else if c < ' ' then none
    else pieces? (.char c :: done) rest

/-- Whether a unit is the first half of a surrogate pair. -/
def isHighSurrogate (n : Nat) : Bool := 0xD800 ≤ n && n < 0xDC00

/-- Whether a unit is the second half of a surrogate pair. -/
def isLowSurrogate (n : Nat) : Bool := 0xDC00 ≤ n && n < 0xE000

/-- The characters that the pieces spell, unless half of a surrogate pair stands alone. -/
def assemble (done : List Char) : List Piece → Option (List Char)
  | [] => some done.reverse
  | .char c :: rest => assemble (c :: done) rest
  | .unit n :: rest =>
    if isHighSurrogate n then
      match rest with
      | .unit m :: rest =>
        if isLowSurrogate m then
          assemble (Char.ofNat (0x10000 + (n - 0xD800) * 0x400 + (m - 0xDC00)) :: done) rest
        else none
      | _ => none
    else if isLowSurrogate n then none
    else assemble (Char.ofNat n :: done) rest

/-- The content of a string, begun after its opening quote, and what follows it. -/
def readString? (cs : List Char) : Option (Option String × List Char) :=
  (pieces? [] cs).map fun (pieces, rest) => ((assemble [] pieces).map String.ofList, rest)

/-! ### Numbers -/

/-- The sign before a number. -/
def readSign : List Char → Bool × List Char
  | '-' :: rest => (true, rest)
  | cs => (false, cs)

/-- A run of one or more digits. -/
def readDigits? (cs : List Char) : Option (List Char × List Char) :=
  match cs.takeWhile Char.isDigit with
  | [] => none
  | digits => some (digits, cs.dropWhile Char.isDigit)

/-- The digits before the point, of which only a lone one is a zero in front. -/
def readWhole? : List Char → Option (Nat × List Char)
  | '0' :: rest => some (0, rest)
  | cs => (readDigits? cs).map fun (digits, rest) => (Nat.ofDigitChars 10 digits 0, rest)

/-- The digits after the point, if there is one. -/
def readFraction? : List Char → Option (List (Fin 10) × List Char)
  | '.' :: rest =>
    (readDigits? rest).map fun (digits, rest) =>
      (digits.map fun c => Fin.ofNat 10 (c.toNat - '0'.toNat), rest)
  | cs => some ([], cs)

/-- A power of ten after its letter. -/
def readPower? : List Char → Option (Int × List Char)
  | '-' :: rest =>
    (readDigits? rest).map fun (digits, rest) => (-(Nat.ofDigitChars 10 digits 0 : Int), rest)
  | '+' :: rest =>
    (readDigits? rest).map fun (digits, rest) => ((Nat.ofDigitChars 10 digits 0 : Int), rest)
  | cs => (readDigits? cs).map fun (digits, rest) => ((Nat.ofDigitChars 10 digits 0 : Int), rest)

/-- The power of ten, if there is one. -/
def readExponent? : List Char → Option (Option Int × List Char)
  | 'e' :: rest => (readPower? rest).map fun (n, rest) => (some n, rest)
  | 'E' :: rest => (readPower? rest).map fun (n, rest) => (some n, rest)
  | cs => some (none, cs)

/-- A number and what follows it. -/
def readNumber? (cs : List Char) : Option (Number × List Char) := do
  let (negative, rest) := readSign cs
  let (whole, rest) ← readWhole? rest
  let (fraction, rest) ← readFraction? rest
  let (exponent, rest) ← readExponent? rest
  return (⟨negative, whole, fraction, exponent⟩, rest)

/-! ### Tokens -/

/-- The token at the front and what follows it. -/
def Token.read? : List Char → Option (Token × List Char)
  | '[' :: rest => some (.beginArray, rest)
  | ']' :: rest => some (.endArray, rest)
  | '{' :: rest => some (.beginObject, rest)
  | '}' :: rest => some (.endObject, rest)
  | ',' :: rest => some (.comma, rest)
  | ':' :: rest => some (.colon, rest)
  | 'n' :: 'u' :: 'l' :: 'l' :: rest => some (.null, rest)
  | 't' :: 'r' :: 'u' :: 'e' :: rest => some (.bool true, rest)
  | 'f' :: 'a' :: 'l' :: 's' :: 'e' :: rest => some (.bool false, rest)
  | '"' :: rest => (readString? rest).map fun (s, rest) => (.string s, rest)
  | cs => (readNumber? cs).map fun (n, rest) => (.number n, rest)

/-! ### What a token leaves is shorter -/

theorem length_lt_of_pieces? {done pieces : List Piece} {cs rest : List Char}
    (h : pieces? done cs = some (pieces, rest)) : rest.length < cs.length := by
  fun_induction pieces? done cs <;> simp_all <;> omega

theorem length_lt_of_readDigits? {cs digits rest : List Char}
    (h : readDigits? cs = some (digits, rest)) : rest.length < cs.length := by
  unfold readDigits? at h
  split at h
  · simp at h
  · rename_i hne
    simp only [Option.some.injEq, Prod.mk.injEq] at h
    obtain ⟨rfl, rfl⟩ := h
    have hsum := congrArg List.length (List.takeWhile_append_dropWhile (p := Char.isDigit) (l := cs))
    have hpos := List.length_pos_iff.2 hne
    simp only [List.length_append] at hsum
    omega

theorem length_le_readSign (cs : List Char) : (readSign cs).2.length ≤ cs.length := by
  unfold readSign
  split <;> simp

theorem length_lt_of_readWhole? {cs rest : List Char} {n : Nat}
    (h : readWhole? cs = some (n, rest)) : rest.length < cs.length := by
  unfold readWhole? at h
  split at h
  · grind
  · obtain ⟨⟨digits, rest'⟩, hd, he⟩ := Option.map_eq_some_iff.1 h
    have := length_lt_of_readDigits? hd
    grind

theorem length_le_of_readFraction? {cs rest : List Char} {f : List (Fin 10)}
    (h : readFraction? cs = some (f, rest)) : rest.length ≤ cs.length := by
  unfold readFraction? at h
  split at h
  · obtain ⟨⟨digits, rest'⟩, hd, he⟩ := Option.map_eq_some_iff.1 h
    have := length_lt_of_readDigits? hd
    grind
  · grind

theorem length_lt_of_readPower? {cs rest : List Char} {n : Int}
    (h : readPower? cs = some (n, rest)) : rest.length < cs.length := by
  unfold readPower? at h
  split at h
  all_goals
    obtain ⟨⟨digits, rest'⟩, hd, he⟩ := Option.map_eq_some_iff.1 h
    have := length_lt_of_readDigits? hd
    grind

theorem length_le_of_readExponent? {cs rest : List Char} {n : Option Int}
    (h : readExponent? cs = some (n, rest)) : rest.length ≤ cs.length := by
  unfold readExponent? at h
  split at h
  · obtain ⟨⟨n, rest'⟩, hd, he⟩ := Option.map_eq_some_iff.1 h
    have := length_lt_of_readPower? hd
    grind
  · obtain ⟨⟨n, rest'⟩, hd, he⟩ := Option.map_eq_some_iff.1 h
    have := length_lt_of_readPower? hd
    grind
  · grind

theorem length_lt_of_readNumber? {cs rest : List Char} {n : Number}
    (h : readNumber? cs = some (n, rest)) : rest.length < cs.length := by
  simp only [readNumber?, Option.bind_eq_bind, Option.bind_eq_some_iff, Prod.exists] at h
  obtain ⟨_, r1, h1, _, r2, h2, _, r3, h3, h4⟩ := h
  have := length_le_readSign cs
  have := length_lt_of_readWhole? h1
  have := length_le_of_readFraction? h2
  have := length_le_of_readExponent? h3
  grind

/-- **A token takes at least one character.** -/
theorem Token.length_lt_of_read? {t : Token} {cs rest : List Char}
    (h : Token.read? cs = some (t, rest)) : rest.length < cs.length := by
  unfold Token.read? at h
  split at h
  case h_10 =>
    obtain ⟨⟨s, rest'⟩, hs, he⟩ := Option.map_eq_some_iff.1 h
    obtain ⟨⟨ps, rest''⟩, hp, he'⟩ := Option.map_eq_some_iff.1 hs
    have := length_lt_of_pieces? hp
    grind
  case h_11 =>
    obtain ⟨⟨n, rest'⟩, hn, he⟩ := Option.map_eq_some_iff.1 h
    have := length_lt_of_readNumber? hn
    grind
  all_goals grind

end WifiDirect.Json
