import WifiDirect.Settings.Literal

/-!
# Lines of settings files

A settings file is a run of lines, each of which may assign a value to a key, or begin a table with
a header, and may end in a comment. `lines?` reads the whole of a file and refuses what is not of
this form.

Of values it reads those that a setting may take: strings, and blank ones, which are an empty array
or an empty table, alone or as the only member of a table. No setting takes any other, so that a file
with one is no settings file, whatever else is in it.
-/

namespace WifiDirect.Settings

/-- A key of a settings file. -/
abbrev Key := List Char

/-- A value that a settings file may assign. -/
inductive Value
  | text (content : List Char)
  /-- An empty array or an empty table. -/
  | blank
  /-- A table of one member, which is blank. -/
  | member (key : Key)
  deriving DecidableEq, Repr

/-- What a line says. -/
inductive Line
  /-- A value for the key at the end of a path. -/
  | assignment (path : List Key) (value : Value)
  /-- The beginning of the table at the end of a path. -/
  | header (path : List Key)
  deriving DecidableEq, Repr

/-! ### Keys -/

/-- Whether a character may stand in a key without quotes. -/
def isBareKeyChar (c : Char) : Bool :=
  c.isAlphanum || c == '_' || c == '-'

/-- The key at the front and what follows it. -/
def key? : List Char → Option (Key × List Char)
  | '"' :: rest => basic? [] rest
  | '\'' :: rest => literal? [] rest
  | cs =>
    match cs.takeWhile isBareKeyChar with
    | [] => none
    | key => some (key, cs.dropWhile isBareKeyChar)

theorem length_dropWhile_le (p : Char → Bool) (cs : List Char) :
    (cs.dropWhile p).length ≤ cs.length :=
  (List.dropWhile_sublist p).length_le

theorem length_lt_of_key? {cs key rest : List Char} (h : key? cs = some (key, rest)) :
    rest.length < cs.length := by
  unfold key? at h
  split at h
  · have := length_lt_of_basic? h
    grind
  · have := length_lt_of_literal? h
    grind
  · split at h
    · simp at h
    · rename_i hne
      simp only [Option.some.injEq, Prod.mk.injEq] at h
      obtain ⟨rfl, rfl⟩ := h
      have hsum := congrArg List.length
        (List.takeWhile_append_dropWhile (p := isBareKeyChar) (l := cs))
      have hpos := List.length_pos_iff.2 hne
      simp only [List.length_append] at hsum
      omega

/-- What follows a dot and the blanks around it. -/
def dot? (cs : List Char) : Option (List Char) :=
  match cs.dropWhile isSpace with
  | '.' :: rest => some (rest.dropWhile isSpace)
  | _ => none

theorem length_lt_of_dot? {cs rest : List Char} (h : dot? cs = some rest) :
    rest.length < cs.length := by
  unfold dot? at h
  have := length_dropWhile_le isSpace cs
  split at h
  · rename_i rest' heq
    have := length_dropWhile_le isSpace rest'
    grind
  · simp at h

/-- The path at the front, which is keys with dots between them, and what follows it. -/
def path? (cs : List Char) : Option (List Key × List Char) :=
  match _h : key? cs with
  | none => none
  | some (key, rest) =>
    match _h' : dot? rest with
    | none => some ([key], rest)
    | some rest' => (path? rest').map fun (path, rest) => (key :: path, rest)
  termination_by cs.length
  decreasing_by
    have := length_lt_of_key? _h
    have := length_lt_of_dot? _h'
    omega

theorem length_lt_of_path? {cs rest : List Char} {path : List Key}
    (h : path? cs = some (path, rest)) : rest.length < cs.length := by
  fun_induction path? cs generalizing path rest with
  | case1 => cases h
  | case2 cs key rest' hkey hdot =>
    cases h
    exact length_lt_of_key? hkey
  | case3 cs key rest' hkey rest'' hdot ih =>
    obtain ⟨⟨path', rest⟩, hpath, heq⟩ := Option.map_eq_some_iff.1 h
    cases heq
    have := ih hpath
    have := length_lt_of_key? hkey
    have := length_lt_of_dot? hdot
    omega

/-! ### Ends of lines -/

/-- What follows a comment at the front, or all where there is none. -/
def skipComment : List Char → List Char
  | '#' :: rest => rest.dropWhile isPlain
  | cs => cs

/-- What follows the end of a line. A comment may stand before it, and the file may end with it. -/
def lineEnd? (cs : List Char) : Option (List Char) :=
  match skipComment (cs.dropWhile isSpace) with
  | [] => some []
  | rest => lineBreak? rest

theorem length_skipComment_le (cs : List Char) : (skipComment cs).length ≤ cs.length := by
  unfold skipComment
  split
  · rename_i rest
    have := length_dropWhile_le isPlain rest
    grind
  · exact Nat.le_refl _

theorem length_le_of_lineEnd? {cs rest : List Char} (h : lineEnd? cs = some rest) :
    rest.length ≤ cs.length := by
  unfold lineEnd? at h
  have := length_skipComment_le (cs.dropWhile isSpace)
  have := length_dropWhile_le isSpace cs
  split at h
  · grind
  · have := length_lt_of_lineBreak? h
    omega

/-- The end of a line takes at least one character of a file that goes on. -/
theorem length_lt_of_lineEnd? {cs rest : List Char} (h : lineEnd? cs = some rest) (hcs : cs ≠ []) :
    rest.length < cs.length := by
  unfold lineEnd? at h
  have := length_skipComment_le (cs.dropWhile isSpace)
  have := length_dropWhile_le isSpace cs
  split at h
  · have := List.length_pos_iff.2 hcs
    grind
  · have := length_lt_of_lineBreak? h
    omega

/-- Passes over blanks, comments and line breaks. -/
def skipComments (cs : List Char) : List Char :=
  match _h : lineBreak? (skipComment (cs.dropWhile isSpace)) with
  | some rest => skipComments rest
  | none => cs.dropWhile isSpace
  termination_by cs.length
  decreasing_by
    have := length_lt_of_lineBreak? _h
    have := length_skipComment_le (cs.dropWhile isSpace)
    have := length_dropWhile_le isSpace cs
    omega

theorem length_skipComments_le (cs : List Char) : (skipComments cs).length ≤ cs.length := by
  fun_induction skipComments cs with
  | case1 cs rest h ih =>
    have := length_lt_of_lineBreak? h
    have := length_skipComment_le (cs.dropWhile isSpace)
    have := length_dropWhile_le isSpace cs
    omega
  | case2 cs => exact length_dropWhile_le isSpace cs

/-! ### Values -/

/-- What follows the equals sign and the blanks around it. -/
def equals? (cs : List Char) : Option (List Char) :=
  match cs.dropWhile isSpace with
  | '=' :: rest => some (rest.dropWhile isSpace)
  | _ => none

/-- What follows a closing bracket and the blanks before it. -/
def close? (bracket : Char) (cs : List Char) : Option (List Char) :=
  match cs.dropWhile isSpace with
  | [] => none
  | c :: rest => if c = bracket then some rest else none

/-- What follows an empty array or an empty table at the front. Comments and line breaks may stand
in the array only. -/
def blank? : List Char → Option (List Char)
  | '[' :: rest => close? ']' (skipComments rest)
  | '{' :: rest => close? '}' rest
  | _ => none

/-- The key of the only member of a table at the front, which is blank, and what follows the
table. -/
def member? : List Char → Option (Key × List Char)
  | '{' :: rest => do
    let (key, rest) ← key? (rest.dropWhile isSpace)
    let rest ← equals? rest
    let rest ← blank? rest
    let rest ← close? '}' rest
    return (key, rest)
  | _ => none

/-- The value at the front and what follows it. -/
def value? (cs : List Char) : Option (Value × List Char) :=
  match string? cs with
  | some (content, rest) => some (.text content, rest)
  | none =>
    match blank? cs with
    | some rest => some (.blank, rest)
    | none => (member? cs).map fun (key, rest) => (.member key, rest)

theorem length_le_of_equals? {cs rest : List Char} (h : equals? cs = some rest) :
    rest.length ≤ cs.length := by
  unfold equals? at h
  have := length_dropWhile_le isSpace cs
  split at h
  · rename_i rest' heq
    have := length_dropWhile_le isSpace rest'
    grind
  · simp at h

theorem length_lt_of_close? {bracket : Char} {cs rest : List Char}
    (h : close? bracket cs = some rest) : rest.length < cs.length := by
  unfold close? at h
  have := length_dropWhile_le isSpace cs
  split at h
  · simp at h
  · rename_i c rest' heq
    obtain ⟨-, hrest⟩ := Option.ite_none_right_eq_some.1 h
    grind

theorem length_lt_of_blank? {cs rest : List Char} (h : blank? cs = some rest) :
    rest.length < cs.length := by
  unfold blank? at h
  split at h
  · rename_i rest'
    have := length_lt_of_close? h
    have := length_skipComments_le rest'
    grind
  · have := length_lt_of_close? h
    grind
  · simp at h

theorem length_lt_of_member? {cs rest : List Char} {key : Key}
    (h : member? cs = some (key, rest)) : rest.length < cs.length := by
  unfold member? at h
  split at h
  · rename_i rest'
    simp only [Option.bind_eq_bind, Option.bind_eq_some_iff, Prod.exists] at h
    obtain ⟨_, r1, h1, r2, h2, r3, h3, r4, h4, h5⟩ := h
    have := length_dropWhile_le isSpace rest'
    have := length_lt_of_key? h1
    have := length_le_of_equals? h2
    have := length_lt_of_blank? h3
    have := length_lt_of_close? h4
    grind
  · simp at h

/-- **A value takes at least one character.** -/
theorem length_lt_of_value? {cs rest : List Char} {value : Value}
    (h : value? cs = some (value, rest)) : rest.length < cs.length := by
  unfold value? at h
  split at h
  · rename_i hstring
    cases h
    exact length_lt_of_string? hstring
  · split at h
    · rename_i hblank
      cases h
      exact length_lt_of_blank? hblank
    · obtain ⟨⟨key, rest'⟩, hmember, heq⟩ := Option.map_eq_some_iff.1 h
      cases heq
      exact length_lt_of_member? hmember

/-! ### Lines -/

/-- What the line at the front says, and what follows that. -/
def content? : List Char → Option (Line × List Char)
  | '[' :: rest => do
    let (path, rest) ← path? (rest.dropWhile isSpace)
    let rest ← close? ']' rest
    return (.header path, rest)
  | cs => do
    let (path, rest) ← path? cs
    let rest ← equals? rest
    let (value, rest) ← value? rest
    return (.assignment path value, rest)

theorem length_lt_of_content? {cs rest : List Char} {line : Line}
    (h : content? cs = some (line, rest)) : rest.length < cs.length := by
  unfold content? at h
  split at h
  · rename_i rest'
    simp only [Option.bind_eq_bind, Option.bind_eq_some_iff, Prod.exists] at h
    obtain ⟨_, r1, h1, r2, h2, h3⟩ := h
    have := length_dropWhile_le isSpace rest'
    have := length_lt_of_path? h1
    have := length_lt_of_close? h2
    grind
  · simp only [Option.bind_eq_bind, Option.bind_eq_some_iff, Prod.exists] at h
    obtain ⟨_, r1, h1, r2, h2, _, r3, h3, h4⟩ := h
    have := length_lt_of_path? h1
    have := length_le_of_equals? h2
    have := length_lt_of_value? h3
    grind

/-- The line at the front, if it says anything, and what follows it. -/
def line? (cs : List Char) : Option (Option Line × List Char) :=
  match lineEnd? cs with
  | some rest => some (none, rest)
  | none => do
    let (line, rest) ← content? (cs.dropWhile isSpace)
    let rest ← lineEnd? rest
    return (some line, rest)

/-- A line takes at least one character of a file that goes on. -/
theorem length_lt_of_line? {cs rest : List Char} {line? : Option Line}
    (h : Settings.line? cs = some (line?, rest)) (hcs : cs ≠ []) : rest.length < cs.length := by
  unfold Settings.line? at h
  split at h
  · rename_i rest' hend
    have := length_lt_of_lineEnd? hend hcs
    grind
  · simp only [Option.bind_eq_bind, Option.bind_eq_some_iff, Prod.exists] at h
    obtain ⟨_, r1, h1, r2, h2, h3⟩ := h
    have := length_lt_of_content? h1
    have := length_le_of_lineEnd? h2
    have := length_dropWhile_le isSpace cs
    grind

/-- What the lines that are left say. -/
def linesFrom? (cs : List Char) : Option (List Line) :=
  if _hcs : cs = [] then some []
  else
    match _h : line? cs with
    | none => none
    | some (line?, rest) => (linesFrom? rest).map (line?.toList ++ ·)
  termination_by cs.length
  decreasing_by exact length_lt_of_line? _h _hcs

/-- The byte-order mark. -/
def byteOrderMark : Char := '\ufeff'

/-- **What the lines of a file say**, in their order. A byte-order mark may stand in front. -/
def lines? : List Char → Option (List Line)
  | [] => some []
  | c :: cs => if c = byteOrderMark then linesFrom? cs else linesFrom? (c :: cs)

end WifiDirect.Settings
