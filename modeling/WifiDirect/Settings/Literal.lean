import WifiDirect.Bytes

/-!
# String literals of settings files

Four forms: basic and literal strings, each on one line or on many. Basic strings have escapes,
literal strings have none. In a string on many lines a line break is one line feed however it is
written, the one behind the opening quotes is no part of the string, and up to two quotes may stand
before the closing ones.
-/

namespace WifiDirect.Settings

/-- Whether a character may stand in a string or comment as it is. Of the control characters only
the tab may. -/
def isPlain (c : Char) : Bool :=
  c == '\t' || (' ' ≤ c && c ≠ '\x7f')

/-- Whether a character is a blank within a line. -/
def isSpace (c : Char) : Bool :=
  c == ' ' || c == '\t'

/-- What follows a line break at the front. -/
def lineBreak? : List Char → Option (List Char)
  | '\n' :: rest => some rest
  | '\r' :: '\n' :: rest => some rest
  | _ => none

/-- What follows a line break at the front, or all where there is none. -/
def skipLineBreak (cs : List Char) : List Char :=
  (lineBreak? cs).getD cs

/-! ### Escapes -/

/-- The character whose code point the digits spell. -/
def codePoint? (digits : List Char) : Option Char := do
  let values ← digits.mapM Bytes.hexValue?
  let n := values.foldl (fun n v => n * 16 + v) 0
  if n.isValidChar then some (Char.ofNat n) else none

/-- The character that an escape names, begun behind its backslash, and what follows it. -/
def escape? : List Char → Option (Char × List Char)
  | 'b' :: rest => some ('\x08', rest)
  | 't' :: rest => some ('\t', rest)
  | 'n' :: rest => some ('\n', rest)
  | 'f' :: rest => some ('\x0c', rest)
  | 'r' :: rest => some ('\r', rest)
  | '"' :: rest => some ('"', rest)
  | '\\' :: rest => some ('\\', rest)
  | 'u' :: a :: b :: c :: d :: rest => (codePoint? [a, b, c, d]).map (·, rest)
  | 'U' :: a :: b :: c :: d :: e :: f :: g :: h :: rest =>
    (codePoint? [a, b, c, d, e, f, g, h]).map (·, rest)
  | _ => none

/-- Passes over blanks and line breaks. -/
def skipBlankLines : List Char → List Char
  | ' ' :: rest => skipBlankLines rest
  | '\t' :: rest => skipBlankLines rest
  | '\n' :: rest => skipBlankLines rest
  | '\r' :: '\n' :: rest => skipBlankLines rest
  | cs => cs

/-- What follows a line that ends in a backslash, begun behind the backslash: the line break and the
blanks around it are passed over. -/
def continuation? (cs : List Char) : Option (List Char) :=
  (lineBreak? (cs.dropWhile isSpace)).map skipBlankLines

theorem length_lt_of_lineBreak? {cs rest : List Char} (h : lineBreak? cs = some rest) :
    rest.length < cs.length := by
  unfold lineBreak? at h
  split at h <;> grind

theorem length_lt_of_escape? {cs rest : List Char} {c : Char} (h : escape? cs = some (c, rest)) :
    rest.length < cs.length := by
  unfold escape? at h
  split at h <;> simp_all <;> grind

theorem length_skipBlankLines_le (cs : List Char) : (skipBlankLines cs).length ≤ cs.length := by
  fun_induction skipBlankLines cs <;> simp_all <;> omega

theorem length_lt_of_continuation? {cs rest : List Char} (h : continuation? cs = some rest) :
    rest.length < cs.length := by
  obtain ⟨rest', hbreak, rfl⟩ := Option.map_eq_some_iff.1 h
  have := length_lt_of_lineBreak? hbreak
  have := length_skipBlankLines_le rest'
  have := (List.dropWhile_sublist (l := cs) isSpace).length_le
  omega

/-! ### Strings on one line -/

/-- The content of a basic string up to its closing quote, and what follows that. -/
def basic? (done cs : List Char) : Option (List Char × List Char) :=
  match cs with
  | [] => none
  | c :: rest =>
    if c = '"' then some (done.reverse, rest)
    else if c = '\\' then
      match _h : escape? rest with
      | some (c, rest') => basic? (c :: done) rest'
      | none => none
    else if isPlain c then basic? (c :: done) rest
    else none
  termination_by cs.length
  decreasing_by
    · have := length_lt_of_escape? _h
      simp only [List.length_cons]
      omega
    · simp

/-- The content of a literal string up to its closing quote, and what follows that. -/
def literal? (done : List Char) : List Char → Option (List Char × List Char)
  | [] => none
  | c :: rest =>
    if c = '\'' then some (done.reverse, rest)
    else if isPlain c then literal? (c :: done) rest
    else none

/-! ### Strings on many lines -/

/-- The quotes that stand before the three closing ones, and what follows these. Of a run of quotes
no more than two stand before. -/
def closing? (quote : Char) (cs : List Char) : Option (List Char × List Char) :=
  let run := min (cs.takeWhile (· == quote)).length 5
  if run < 3 then none else some (List.replicate (run - 3) quote, cs.drop run)

/-- The content of a basic string on many lines up to its closing quotes, and what follows these. -/
def basicLines? (done cs : List Char) : Option (List Char × List Char) :=
  match closing? '"' cs with
  | some (quotes, rest) => some (done.reverse ++ quotes, rest)
  | none =>
    match cs with
    | [] => none
    | c :: rest =>
      if c = '\\' then
        match _h : continuation? rest with
        | some rest' => basicLines? done rest'
        | none =>
          match _h' : escape? rest with
          | some (c, rest') => basicLines? (c :: done) rest'
          | none => none
      else if isPlain c then basicLines? (c :: done) rest
      else
        match _h : lineBreak? (c :: rest) with
        | some rest' => basicLines? ('\n' :: done) rest'
        | none => none
  termination_by cs.length
  decreasing_by
    · have := length_lt_of_continuation? _h
      simp only [List.length_cons]
      omega
    · have := length_lt_of_escape? _h'
      simp only [List.length_cons]
      omega
    · simp
    · exact length_lt_of_lineBreak? _h

/-- The content of a literal string on many lines up to its closing quotes, and what follows
these. -/
def literalLines? (done cs : List Char) : Option (List Char × List Char) :=
  match closing? '\'' cs with
  | some (quotes, rest) => some (done.reverse ++ quotes, rest)
  | none =>
    match cs with
    | [] => none
    | c :: rest =>
      if isPlain c then literalLines? (c :: done) rest
      else
        match _h : lineBreak? (c :: rest) with
        | some rest' => literalLines? ('\n' :: done) rest'
        | none => none
  termination_by cs.length
  decreasing_by
    · simp
    · exact length_lt_of_lineBreak? _h

/-! ### All forms -/

/-- **The string at the front and what follows it.** -/
def string? : List Char → Option (List Char × List Char)
  | '"' :: '"' :: '"' :: rest => basicLines? [] (skipLineBreak rest)
  | '\'' :: '\'' :: '\'' :: rest => literalLines? [] (skipLineBreak rest)
  | '"' :: rest => basic? [] rest
  | '\'' :: rest => literal? [] rest
  | _ => none

theorem length_lt_of_basic? {done cs content rest : List Char}
    (h : basic? done cs = some (content, rest)) : rest.length < cs.length := by
  fun_induction basic? done cs <;> grind [→ length_lt_of_escape?]

theorem length_lt_of_literal? {done cs content rest : List Char}
    (h : literal? done cs = some (content, rest)) : rest.length < cs.length := by
  fun_induction literal? done cs <;> grind

theorem length_lt_of_closing? {quote : Char} {cs quotes rest : List Char}
    (h : closing? quote cs = some (quotes, rest)) : rest.length < cs.length := by
  have := (List.takeWhile_sublist (l := cs) (· == quote)).length_le
  simp only [closing?] at h
  split at h
  · simp at h
  · simp only [Option.some.injEq, Prod.mk.injEq] at h
    obtain ⟨-, rfl⟩ := h
    simp only [List.length_drop]
    omega

theorem length_lt_of_basicLines? {done cs content rest : List Char}
    (h : basicLines? done cs = some (content, rest)) : rest.length < cs.length := by
  fun_induction basicLines? done cs <;>
    grind [→ length_lt_of_closing?, → length_lt_of_continuation?, → length_lt_of_escape?,
      → length_lt_of_lineBreak?]

theorem length_lt_of_literalLines? {done cs content rest : List Char}
    (h : literalLines? done cs = some (content, rest)) : rest.length < cs.length := by
  fun_induction literalLines? done cs <;>
    grind [→ length_lt_of_closing?, → length_lt_of_lineBreak?]

theorem length_skipLineBreak_le (cs : List Char) : (skipLineBreak cs).length ≤ cs.length := by
  unfold skipLineBreak
  cases h : lineBreak? cs with
  | none => simp
  | some rest => exact Nat.le_of_lt (length_lt_of_lineBreak? h)

/-- **A string takes at least one character.** -/
theorem length_lt_of_string? {cs content rest : List Char} (h : string? cs = some (content, rest)) :
    rest.length < cs.length := by
  unfold string? at h
  split at h
  · rename_i rest'
    have := length_lt_of_basicLines? h
    have := length_skipLineBreak_le rest'
    grind
  · rename_i rest'
    have := length_lt_of_literalLines? h
    have := length_skipLineBreak_le rest'
    grind
  · have := length_lt_of_basic? h
    grind
  · have := length_lt_of_literal? h
    grind
  · simp at h

end WifiDirect.Settings
