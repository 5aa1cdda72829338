import WifiDirect.Proofs.AddressText
import WifiDirect.Proofs.SettingsFiles

/-!
# A settings file for every choice

`Settings.File.choices_text`: whatever is chosen of the settings, some file chooses it, whichever of
seven ways it names the output in (`OutputForm`). Such a file has one line for each text that is
chosen; in it, characters that may not stand there as they are stand as their code points. The lines
for the output are the last ones, since they may begin a table.
-/

namespace WifiDirect.Settings

/-! ### Characters -/

/-- A number below `16 ^ 8` in eight hexadecimal digits. -/
def eightDigits (n : Nat) : List Char :=
  [n / 16 ^ 7 % 16, n / 16 ^ 6 % 16, n / 16 ^ 5 % 16, n / 16 ^ 4 % 16, n / 16 ^ 3 % 16,
    n / 16 ^ 2 % 16, n / 16 % 16, n % 16].map Nat.digitChar

/-- A character as it is written in a basic string. -/
def writtenChar (c : Char) : List Char :=
  if isPlain c ∧ c ≠ '"' ∧ c ≠ '\\' then [c] else '\\' :: 'U' :: eightDigits c.toNat

theorem codePoint?_eightDigits (c : Char) : codePoint? (eightDigits c.toNat) = some c := by
  have hdigit : ∀ m, Bytes.hexValue? (Nat.digitChar (m % 16)) = some (m % 16) := fun m =>
    Bytes.hexValue?_digitChar (Nat.mod_lt m (by decide))
  have hvalid : c.toNat.isValidChar := Utf8.isValidChar_toNat c
  have hsum : (((((((c.toNat / 16 ^ 7 % 16 * 16 + c.toNat / 16 ^ 6 % 16) * 16 +
      c.toNat / 16 ^ 5 % 16) * 16 + c.toNat / 16 ^ 4 % 16) * 16 + c.toNat / 16 ^ 3 % 16) * 16 +
      c.toNat / 16 ^ 2 % 16) * 16 + c.toNat / 16 % 16) * 16 + c.toNat % 16) = c.toNat := by
    rcases hvalid with h | h <;> omega
  simp only [codePoint?, eightDigits, List.map_cons, List.map_nil, List.mapM_cons, List.mapM_nil,
    hdigit, Option.pure_def, Option.bind_eq_bind, Option.bind_some, List.foldl_cons,
    List.foldl_nil, Nat.zero_mul, Nat.zero_add, hsum, if_pos hvalid, Char.ofNat_toNat]

theorem basic?_quote (done rest : List Char) :
    basic? done ('"' :: rest) = some (done.reverse, rest) := by
  rw [basic?.eq_def]
  rfl

theorem basic?_writtenChar (c : Char) (done rest : List Char) :
    basic? done (writtenChar c ++ rest) = basic? (c :: done) rest := by
  unfold writtenChar
  split_ifs with h
  · obtain ⟨hplain, hquote, hbackslash⟩ := h
    rw [List.singleton_append, basic?.eq_def]
    simp only [if_neg hquote, if_neg hbackslash, if_pos hplain]
  · have hescape : escape? ('U' :: (eightDigits c.toNat ++ rest)) = some (c, rest) := by
      show (codePoint? (eightDigits c.toNat)).map (·, rest) = _
      rw [codePoint?_eightDigits]
      rfl
    rw [List.cons_append, List.cons_append, basic?.eq_def]
    dsimp only
    rw [if_neg (by decide), if_pos rfl]
    split
    · rename_i heq
      rw [hescape] at heq
      cases heq
      rfl
    · rename_i heq
      rw [hescape] at heq
      cases heq

/-- **Every text is the content of a basic string.** -/
theorem basic?_flatMap (value done rest : List Char) :
    basic? done (value.flatMap writtenChar ++ '"' :: rest) = some (done.reverse ++ value, rest) := by
  induction value generalizing done with
  | nil => rw [List.flatMap_nil, List.nil_append, basic?_quote, List.append_nil]
  | cons c value ih =>
    rw [List.flatMap_cons, List.append_assoc, basic?_writtenChar, ih, List.reverse_cons,
      List.append_assoc, List.singleton_append]

/-! ### Lines -/

/-- Whether a key needs no quotes. -/
def IsBare (key : List Char) : Prop :=
  key ≠ [] ∧ ∀ c ∈ key, isBareKeyChar c

/-- A path is written with dots between its keys. -/
def pathText : List Key → List Char
  | [] => []
  | [key] => key
  | key :: path => key ++ '.' :: pathText path

/-- A value as it is written. -/
def Value.written : Value → List Char
  | .text content => '"' :: (content.flatMap writtenChar ++ ['"'])
  | .blank => ['{', '}']
  | .member key => '{' :: (key ++ [' ', '=', ' ', '{', '}', '}'])

/-- A line as it is written. -/
def Line.written : Line → List Char
  | .assignment path value => pathText path ++ (' ' :: '=' :: ' ' :: (value.written ++ ['\n']))
  | .header path => '[' :: (pathText path ++ [']', '\n'])

/-- Whether no key of a value needs quotes. -/
def Value.HasBareKeys : Value → Prop
  | .member key => IsBare key
  | _ => True

/-- Whether a path is one, and no key of it needs quotes. -/
def IsBarePath (path : List Key) : Prop :=
  path ≠ [] ∧ ∀ key ∈ path, IsBare key

/-- Whether no key of a line needs quotes. -/
def Line.HasBareKeys : Line → Prop
  | .assignment path value => IsBarePath path ∧ value.HasBareKeys
  | .header path => IsBarePath path

instance (key : Key) : Decidable (IsBare key) :=
  decidable_of_iff (key ≠ [] ∧ key.all isBareKeyChar) (and_congr_right' List.all_eq_true)

instance (path : List Key) : Decidable (IsBarePath path) :=
  inferInstanceAs (Decidable (path ≠ [] ∧ ∀ key ∈ path, IsBare key))

instance : (v : Value) → Decidable v.HasBareKeys
  | .text _ => inferInstanceAs (Decidable True)
  | .blank => inferInstanceAs (Decidable True)
  | .member key => inferInstanceAs (Decidable (IsBare key))

instance : (line : Line) → Decidable line.HasBareKeys
  | .assignment path value => inferInstanceAs (Decidable (IsBarePath path ∧ value.HasBareKeys))
  | .header path => inferInstanceAs (Decidable (IsBarePath path))

/-- A character of a key begins no comment, no other line and no quotes. -/
theorem ne_of_isBareKeyChar {c : Char} (h : isBareKeyChar c) :
    c ≠ '#' ∧ c ≠ '\n' ∧ c ≠ '\r' ∧ c ≠ '"' ∧ c ≠ '\'' ∧ c ≠ byteOrderMark ∧ ¬ isSpace c := by
  refine ⟨?_, ?_, ?_, ?_, ?_, ?_, fun hspace => ?_⟩
  any_goals
    rintro rfl
    exact absurd h (by decide)
  simp only [isSpace, Bool.or_eq_true, beq_iff_eq] at hspace
  rcases hspace with rfl | rfl <;> exact absurd h (by decide)

section Reading

variable {key : Key} {path : List Key} {line : Line} {rest : List Char}

theorem lineEnd?_of_isBareKeyChar {c : Char} (h : isBareKeyChar c) (cs : List Char) :
    lineEnd? (c :: cs) = none := by
  obtain ⟨hcomment, hfeed, hreturn, -, -, -, hspace⟩ := ne_of_isBareKeyChar h
  have hskip : skipComment (c :: cs) = c :: cs := by
    unfold skipComment
    split
    · rename_i heq
      exact absurd (List.cons.inj heq).1 hcomment
    · rfl
  unfold lineEnd?
  rw [List.dropWhile_cons_of_neg hspace, hskip]
  show lineBreak? (c :: cs) = none
  unfold lineBreak?
  split
  · rename_i heq
    exact absurd (List.cons.inj heq).1 hfeed
  · rename_i heq
    exact absurd (List.cons.inj heq).1 hreturn
  · rfl

theorem IsBare.exists_eq_cons (h : IsBare key) :
    ∃ first cs, key = first :: cs ∧ isBareKeyChar first := by
  obtain ⟨hne, hall⟩ := h
  obtain ⟨first, cs, rfl⟩ := List.exists_cons_of_ne_nil hne
  exact ⟨first, cs, rfl, hall first List.mem_cons_self⟩

/-- No blanks are passed over before a key. -/
theorem IsBare.dropWhile_append (h : IsBare key) (rest : List Char) :
    (key ++ rest).dropWhile isSpace = key ++ rest := by
  obtain ⟨first, cs, rfl, hfirst⟩ := h.exists_eq_cons
  obtain ⟨-, -, -, -, -, -, hspace⟩ := ne_of_isBareKeyChar hfirst
  rw [List.cons_append, List.dropWhile_cons_of_neg hspace]

theorem key?_append (h : IsBare key) {c : Char} (hc : ¬ isBareKeyChar c) (rest : List Char) :
    key? (key ++ c :: rest) = some (key, c :: rest) := by
  have htake : (key ++ c :: rest).takeWhile isBareKeyChar = key := by
    rw [List.takeWhile_append_of_pos h.2, List.takeWhile_cons_of_neg hc, List.append_nil]
  have hdrop : (key ++ c :: rest).dropWhile isBareKeyChar = c :: rest := by
    rw [List.dropWhile_append_of_pos h.2, List.dropWhile_cons_of_neg hc]
  obtain ⟨first, cs, hkey, hfirst⟩ := h.exists_eq_cons
  obtain ⟨-, -, -, hquote, happostrophe, -, -⟩ := ne_of_isBareKeyChar hfirst
  unfold key?
  split
  · rename_i heq
    rw [hkey, List.cons_append] at heq
    exact absurd (List.cons.inj heq).1 hquote
  · rename_i heq
    rw [hkey, List.cons_append] at heq
    exact absurd (List.cons.inj heq).1 happostrophe
  · rw [htake, hdrop]
    split
    · exact absurd rfl h.1
    · rfl

theorem pathText_cons (key key' : Key) (path : List Key) :
    pathText (key :: key' :: path) = key ++ '.' :: pathText (key' :: path) :=
  rfl

theorem IsBarePath.exists_eq_append (h : IsBarePath path) :
    ∃ key cs, IsBare key ∧ pathText path = key ++ cs := by
  obtain ⟨hne, hall⟩ := h
  obtain ⟨key, path, rfl⟩ := List.exists_cons_of_ne_nil hne
  refine ⟨key, ?_⟩
  rcases path with _ | ⟨key', path⟩
  · exact ⟨[], hall key List.mem_cons_self, (List.append_nil key).symm⟩
  · exact ⟨_, hall key List.mem_cons_self, pathText_cons key key' path⟩

theorem IsBarePath.dropWhile_append (h : IsBarePath path) (rest : List Char) :
    (pathText path ++ rest).dropWhile isSpace = pathText path ++ rest := by
  obtain ⟨key, cs, hkey, htext⟩ := h.exists_eq_append
  rw [htext, List.append_assoc, hkey.dropWhile_append]

theorem path?_of_key? {cs : List Char} (h : key? cs = some (key, rest)) : path? cs =
    match dot? rest with
    | none => some ([key], rest)
    | some rest' => (path? rest').map fun (path, rest) => (key :: path, rest) := by
  rw [path?.eq_def]
  split
  · rename_i hnone
    rw [h] at hnone
    cases hnone
  · rename_i heq
    rw [h] at heq
    cases heq
    split <;> simp_all

/-- **A path is read** up to what can neither be in a key nor lead to another one. -/
theorem path?_append (h : IsBarePath path) {c : Char} (hc : ¬ isBareKeyChar c)
    (hdot : dot? (c :: rest) = none) :
    path? (pathText path ++ c :: rest) = some (path, c :: rest) := by
  obtain ⟨hne, hall⟩ := h
  induction path with
  | nil => exact absurd rfl hne
  | cons key path ih =>
    have hkey := hall key List.mem_cons_self
    rcases path with _ | ⟨key', path⟩
    · have hread : path? (key ++ c :: rest) = some ([key], c :: rest) := by
        rw [path?_of_key? (key?_append hkey hc rest), hdot]
      exact hread
    · have htail : IsBarePath (key' :: path) :=
        ⟨List.cons_ne_nil _ _, fun k hk => hall k (List.mem_cons_of_mem _ hk)⟩
      have hdot' : dot? ('.' :: (pathText (key' :: path) ++ c :: rest)) =
          some (pathText (key' :: path) ++ c :: rest) :=
        congrArg some (htail.dropWhile_append _)
      rw [pathText_cons, List.append_assoc, List.cons_append,
        path?_of_key? (key?_append hkey (by decide) _), hdot']
      dsimp only
      rw [ih htail.1 htail.2]
      rfl

/-- What is written of a value does not begin with a quote. -/
theorem writtenChar_eq_cons (c : Char) : ∃ d ds, writtenChar c = d :: ds ∧ d ≠ '"' := by
  unfold writtenChar
  split_ifs with h
  · exact ⟨c, [], rfl, h.2.1⟩
  · exact ⟨'\\', _, rfl, by decide⟩

theorem string?_flatMap (value rest : List Char) :
    string? ('"' :: (value.flatMap writtenChar ++ '"' :: '\n' :: rest)) =
      some (value, '\n' :: rest) := by
  have hbasic : basic? [] (value.flatMap writtenChar ++ '"' :: '\n' :: rest) =
      some (value, '\n' :: rest) := basic?_flatMap value [] ('\n' :: rest)
  have hone (cs : List Char) : value.flatMap writtenChar ++ '"' :: '\n' :: rest ≠
      '"' :: '"' :: cs := by
    intro heq
    rcases value with _ | ⟨c, value⟩
    · simp at heq
    · obtain ⟨d, ds, hd, hne⟩ := writtenChar_eq_cons c
      rw [List.flatMap_cons, hd] at heq
      exact hne (List.cons.inj heq).1
  unfold string?
  split
  · rename_i heq
    exact absurd (List.cons.inj heq).2 (hone _)
  · rename_i heq
    simp at heq
  · rename_i heq
    rw [← (List.cons.inj heq).2, hbasic]
  · rename_i heq
    simp at heq
  · rename_i hquote _
    exact absurd rfl (hquote _)

theorem blank?_append (rest : List Char) : blank? ('{' :: '}' :: rest) = some rest :=
  rfl

theorem member?_append (h : IsBare key) (rest : List Char) :
    member? ((Value.member key).written ++ rest) = some (key, rest) := by
  have htext : (Value.member key).written ++ rest =
      '{' :: (key ++ ' ' :: '=' :: ' ' :: '{' :: '}' :: '}' :: rest) := by
    simp [Value.written]
  have hequals (cs : List Char) : equals? (' ' :: '=' :: ' ' :: '{' :: cs) = some ('{' :: cs) := rfl
  have hclose : close? '}' ('}' :: rest) = some rest := rfl
  rw [htext, member?, h.dropWhile_append, key?_append h (by decide)]
  simp only [Option.bind_eq_bind, Option.bind_some, hequals, blank?_append, hclose, Option.pure_def]

/-- A table with a member is not blank. -/
theorem blank?_key (h : IsBare key) (rest : List Char) : blank? ('{' :: (key ++ rest)) = none := by
  obtain ⟨first, cs, hkey, hfirst⟩ := h.exists_eq_cons
  have hne : first ≠ '}' := by
    rintro rfl
    exact absurd hfirst (by decide)
  show close? '}' (key ++ rest) = none
  rw [close?, h.dropWhile_append, hkey, List.cons_append]
  exact if_neg hne

/-- **A value is read** as what it was written for. -/
theorem value?_written {v : Value} (h : v.HasBareKeys) (rest : List Char) :
    value? (v.written ++ '\n' :: rest) = some (v, '\n' :: rest) := by
  cases v with
  | text content =>
    have htext : (Value.text content).written ++ '\n' :: rest =
        '"' :: (content.flatMap writtenChar ++ '"' :: '\n' :: rest) := by
      simp [Value.written]
    rw [htext, value?, string?_flatMap]
  | blank => rfl
  | member key =>
    have hkey : IsBare key := h
    have hmember := member?_append hkey ('\n' :: rest)
    have htext : (Value.member key).written ++ '\n' :: rest =
        '{' :: (key ++ ([' ', '=', ' ', '{', '}', '}'] ++ '\n' :: rest)) := by
      simp [Value.written]
    have hstring (cs : List Char) : string? ('{' :: cs) = none := rfl
    rw [htext] at hmember ⊢
    rw [value?, hstring, blank?_key hkey, hmember]
    rfl

theorem content?_assignment {v : Value} (h : IsBarePath path) (hv : v.HasBareKeys)
    (rest : List Char) :
    content? ((Line.assignment path v).written ++ rest) = some (.assignment path v, '\n' :: rest) := by
  have htext : (Line.assignment path v).written ++ rest =
      pathText path ++ ' ' :: '=' :: ' ' :: (v.written ++ '\n' :: rest) := by
    simp [Line.written]
  have hpath : path? (pathText path ++ ' ' :: '=' :: ' ' :: (v.written ++ '\n' :: rest)) =
      some (path, ' ' :: '=' :: ' ' :: (v.written ++ '\n' :: rest)) :=
    path?_append h (by decide) rfl
  have hequals : equals? (' ' :: '=' :: ' ' :: (v.written ++ '\n' :: rest)) =
      some (v.written ++ '\n' :: rest) := by
    cases v <;> rfl
  obtain ⟨key, cs, hkey, hcs⟩ := h.exists_eq_append
  obtain ⟨first, ds, hds, hfirst⟩ := hkey.exists_eq_cons
  have hbracket : first ≠ '[' := by
    rintro rfl
    exact absurd hfirst (by decide)
  rw [htext]
  unfold content?
  split
  · rename_i heq
    rw [hcs, hds] at heq
    exact absurd (List.cons.inj heq).1 hbracket
  · simp only [hpath, hequals, value?_written hv, Option.bind_eq_bind, Option.bind_some,
      Option.pure_def]

theorem content?_header (h : IsBarePath path) (rest : List Char) :
    content? ((Line.header path).written ++ rest) = some (.header path, '\n' :: rest) := by
  have htext : (Line.header path).written ++ rest =
      '[' :: (pathText path ++ ']' :: '\n' :: rest) := by
    simp [Line.written]
  have hpath : path? (pathText path ++ ']' :: '\n' :: rest) = some (path, ']' :: '\n' :: rest) :=
    path?_append h (by decide) rfl
  have hclose : close? ']' (']' :: '\n' :: rest) = some ('\n' :: rest) := rfl
  rw [htext, content?, h.dropWhile_append]
  simp only [hpath, hclose, Option.bind_eq_bind, Option.bind_some, Option.pure_def]

/-- A line begins with a bracket or with a key. -/
theorem Line.HasBareKeys.exists_written_eq_cons (h : line.HasBareKeys) :
    ∃ first cs, line.written = first :: cs ∧ (first = '[' ∨ isBareKeyChar first) := by
  cases line with
  | assignment path v =>
    obtain ⟨key, cs, hkey, hcs⟩ := h.1.exists_eq_append
    obtain ⟨first, ds, hds, hfirst⟩ := hkey.exists_eq_cons
    refine ⟨first, ds ++ cs ++ (' ' :: '=' :: ' ' :: (v.written ++ ['\n'])), ?_, Or.inr hfirst⟩
    rw [written, hcs, hds, List.cons_append, List.cons_append]
  | header path => exact ⟨_, _, rfl, Or.inl rfl⟩

/-- **A line is read** as what it was written for. -/
theorem line?_written (h : line.HasBareKeys) (rest : List Char) :
    line? (line.written ++ rest) = some (some line, rest) := by
  have hcontent : content? (line.written ++ rest) = some (line, '\n' :: rest) := by
    cases line with
    | assignment path v => exact content?_assignment h.1 h.2 rest
    | header path => exact content?_header h rest
  obtain ⟨first, cs, hcs, hfirst⟩ := h.exists_written_eq_cons
  have hend : lineEnd? (first :: (cs ++ rest)) = none ∧ ¬ isSpace first := by
    rcases hfirst with rfl | hfirst
    · exact ⟨rfl, by decide⟩
    · obtain ⟨-, -, -, -, -, -, hspace⟩ := ne_of_isBareKeyChar hfirst
      exact ⟨lineEnd?_of_isBareKeyChar hfirst _, hspace⟩
  rw [hcs, List.cons_append] at hcontent ⊢
  unfold line?
  rw [hend.1, List.dropWhile_cons_of_neg hend.2, hcontent]
  rfl

/-! ### Files -/

theorem linesFrom?_of_line? {cs rest : List Char} {line? : Option Line}
    (h : Settings.line? cs = some (line?, rest)) (hcs : cs ≠ []) :
    linesFrom? cs = (linesFrom? rest).map (line?.toList ++ ·) := by
  rw [linesFrom?.eq_def, dif_neg hcs]
  split
  · rename_i hnone
    rw [h] at hnone
    simp at hnone
  · rename_i heq
    rw [h] at heq
    cases heq
    rfl

theorem linesFrom?_flatMap {lines : List Line} (h : ∀ line ∈ lines, line.HasBareKeys) :
    linesFrom? (lines.flatMap Line.written) = some lines := by
  induction lines with
  | nil =>
    rw [List.flatMap_nil, linesFrom?.eq_def, dif_pos rfl]
  | cons line lines ih =>
    rw [List.forall_mem_cons] at h
    obtain ⟨first, cs, hcs, -⟩ := h.1.exists_written_eq_cons
    have hne : line.written ++ lines.flatMap Line.written ≠ [] := by
      rw [hcs]
      exact List.cons_ne_nil _ _
    rw [List.flatMap_cons, linesFrom?_of_line? (line?_written h.1 _) hne, ih h.2]
    rfl

/-- **Lines are read** from what is written for them. -/
theorem lines?_flatMap {lines : List Line} (h : ∀ line ∈ lines, line.HasBareKeys) :
    lines? (lines.flatMap Line.written) = some lines := by
  rcases lines with _ | ⟨line, lines⟩
  · rfl
  · obtain ⟨first, cs, hcs, hfirst⟩ := (h line List.mem_cons_self).exists_written_eq_cons
    have hmark : first ≠ byteOrderMark := by
      rcases hfirst with rfl | hfirst
      · decide
      · obtain ⟨-, -, -, -, -, hmark, -⟩ := ne_of_isBareKeyChar hfirst
        exact hmark
    have hlines := linesFrom?_flatMap h
    rw [List.flatMap_cons, hcs, List.cons_append] at hlines ⊢
    rw [lines?, if_neg hmark, hlines]

end Reading

/-! ### Choices -/

/-- The ways to name an output in a file. -/
inductive OutputForm
  /-- By its word. -/
  | word
  /-- As the member of a table on one line with its key. -/
  | table
  /-- As a member of the table on a line of its own, with a dot between the keys. -/
  | dotted
  /-- In the table behind its header. -/
  | header
  /-- By the header of the member. -/
  | memberHeader
  /-- By the headers of the table and of the member. -/
  | headers
  /-- By the headers of the member and of the table. -/
  | headersBack
  deriving DecidableEq, Repr

namespace OutputForm

/-- The lines that name an output. -/
def lines (o : Output) : OutputForm → List Line
  | word => [.assignment ["output".toList] (.text o.word.toList)]
  | table => [.assignment ["output".toList] (.member o.word.toList)]
  | dotted => [.assignment ["output".toList, o.word.toList] .blank]
  | header => [.header ["output".toList], .assignment [o.word.toList] .blank]
  | memberHeader => [.header ["output".toList, o.word.toList]]
  | headers => [.header ["output".toList], .header ["output".toList, o.word.toList]]
  | headersBack => [.header ["output".toList, o.word.toList], .header ["output".toList]]

/-- The value that names an output. -/
def value (o : Output) : OutputForm → Value
  | word => .text o.word.toList
  | _ => .member o.word.toList

theorem output?_value (o : Output) (form : OutputForm) : (form.value o).output? = some o := by
  rw [Value.output?_eq_some_iff]
  cases form with
  | word => exact Or.inl rfl
  | _ => exact Or.inr rfl

theorem hasBareKeys_lines (o : Output) (form : OutputForm) :
    ∀ line ∈ form.lines o, line.HasBareKeys := by
  cases o <;> cases form <;> decide

theorem lineAssignments?_lines (o : Output) (form : OutputForm) :
    lineAssignments? (form.lines o) = some [⟨"output".toList, form.value o⟩] := by
  cases form <;> rfl

end OutputForm

/-- A text as a value. -/
def Value.ofText (text : String) : Value :=
  .text text.toList

/-- The assignment of a value to a key, if there is a value. -/
def assignmentOf (key : String) (value? : Option Value) : List Assignment :=
  (value?.map (Assignment.mk key.toList)).toList

/-- The assignments of the texts that are chosen. -/
def Choices.textAssignments (choices : Choices) : List Assignment :=
  assignmentOf "interface" (choices.interface?.map .ofText) ++
    assignmentOf "log_filter" (choices.logFilter?.map .ofText)

/-- The assignments that make choices. -/
def Choices.assignments (choices : Choices) (form : OutputForm) : List Assignment :=
  choices.textAssignments ++ assignmentOf "output" (choices.output?.map form.value)

/-- The line of an assignment. -/
def Assignment.line (a : Assignment) : Line :=
  .assignment [a.key] a.value

/-- The lines that make choices. -/
def Choices.lines (choices : Choices) (form : OutputForm) : List Line :=
  choices.textAssignments.map Assignment.line ++ (choices.output?.map form.lines).getD []

/-- A file that makes choices. -/
def Choices.text (choices : Choices) (form : OutputForm) : Bytes :=
  Utf8.encode ((choices.lines form).flatMap Line.written)

theorem lineAssignments?_append (as : List Assignment) (lines : List Line) :
    lineAssignments? (as.map Assignment.line ++ lines) =
      (lineAssignments? lines).map (as ++ ·) := by
  induction as with
  | nil => exact Option.map_id'.symm
  | cons a as ih =>
    show (lineAssignments? (as.map Assignment.line ++ lines)).map (⟨a.key, a.value⟩ :: ·) = _
    rw [ih, Option.map_map]
    rfl

theorem assigned?_assignmentOf (name key : String) (value? : Option Value) :
    assigned? (assignmentOf name value?) key = if name = key then value? else none := by
  rcases value? with _ | value
  · exact (ite_self none).symm
  · split_ifs with h
    · rw [h]
      exact assigned?_singleton_of_eq rfl
    · exact assigned?_singleton_of_ne fun heq => h (String.toList_injective heq)

theorem sublist_assignmentOf (key : String) (value? : Option Value) :
    ((assignmentOf key value?).map Assignment.key).Sublist [key.toList] := by
  rcases value? with _ | value
  · exact List.nil_sublist _
  · exact List.Sublist.refl _

namespace Choices

theorem lineAssignments?_lines (choices : Choices) (form : OutputForm) :
    lineAssignments? (choices.lines form) = some (choices.assignments form) := by
  rw [lines, lineAssignments?_append, assignments]
  rcases choices.output? with _ | o
  · rfl
  · show (lineAssignments? (form.lines o)).map _ = _
    rw [form.lineAssignments?_lines]
    rfl

theorem exists_of_mem_textAssignments {choices : Choices} {a : Assignment}
    (ha : a ∈ choices.textAssignments) : ∃ key s, key ∈ textKeys ∧ a = ⟨key, .ofText s⟩ := by
  simp only [textAssignments, assignmentOf, List.mem_append, Option.mem_toList, Option.map_map,
    Option.map_eq_some_iff, Function.comp_apply] at ha
  rcases ha with ⟨s, -, rfl⟩ | ⟨s, -, rfl⟩
  · exact ⟨_, s, List.mem_cons_self, rfl⟩
  · exact ⟨_, s, List.mem_cons_of_mem _ List.mem_cons_self, rfl⟩

theorem suits_of_mem_assignments {choices : Choices} {form : OutputForm} {a : Assignment}
    (ha : a ∈ choices.assignments form) : a.key ∈ keys ∧ a.Suits := by
  rcases List.mem_append.1 ha with ha | ha
  · have hkeys : ∀ key ∈ textKeys, key ∈ keys := by decide
    obtain ⟨key, s, hkey, rfl⟩ := exists_of_mem_textAssignments ha
    exact ⟨hkeys key hkey, (suits_iff_of_text hkey).2 ⟨s, Value.text?_eq_some_iff.2 rfl⟩⟩
  · have hmem : "output".toList ∈ keys := by decide
    simp only [assignmentOf, Option.mem_toList, Option.map_map, Option.map_eq_some_iff,
      Function.comp_apply] at ha
    obtain ⟨o, -, rfl⟩ := ha
    exact ⟨hmem, (suits_iff_of_output rfl).2 ⟨o, form.output?_value o⟩⟩

theorem acceptable_assignments (choices : Choices) (form : OutputForm) :
    Acceptable (choices.assignments form) := by
  have hkeys : ["interface".toList, "log_filter".toList, "output".toList].Nodup := by decide
  refine ⟨fun a ha => (suits_of_mem_assignments ha).1, hkeys.sublist ?_,
    fun a ha => (suits_of_mem_assignments ha).2⟩
  rw [assignments, textAssignments, List.map_append, List.map_append]
  exact ((sublist_assignmentOf _ _).append (sublist_assignmentOf _ _)).append
    (sublist_assignmentOf _ _)

theorem chosen_assignments (choices : Choices) (form : OutputForm) :
    chosen (choices.assignments form) = choices := by
  have htext (s? : Option String) : (s?.map Value.ofText).bind Value.text? = s? := by
    rcases s? with _ | s
    · rfl
    · exact Value.text?_eq_some_iff.2 rfl
  have houtput : (choices.output?.map form.value).bind Value.output? = choices.output? := by
    rcases choices.output? with _ | o
    · rfl
    · exact form.output?_value o
  simp only [chosen, assignments, textAssignments, assigned?_append, assigned?_assignmentOf]
  simp [htext, houtput]

theorem hasBareKeys_lines (choices : Choices) (form : OutputForm) :
    ∀ line ∈ choices.lines form, line.HasBareKeys := by
  intro line hline
  rcases List.mem_append.1 hline with hline | hline
  · have hbare : ∀ key ∈ textKeys, IsBarePath [key] := by decide
    obtain ⟨a, ha, rfl⟩ := List.mem_map.1 hline
    obtain ⟨key, s, hkey, rfl⟩ := exists_of_mem_textAssignments ha
    exact ⟨hbare key hkey, trivial⟩
  · rcases hout : choices.output? with _ | o
    · simp [hout] at hline
    · rw [hout] at hline
      exact form.hasBareKeys_lines o line hline

end Choices

/-- **Whatever is chosen, a file chooses it**, in every form of the output. -/
theorem File.choices_text (choices : Choices) (form : OutputForm) :
    File.choices (.content (choices.text form)) = .ok choices := by
  have hlines := lines?_flatMap (choices.hasBareKeys_lines form)
  have hassignments : assignments? ((choices.lines form).flatMap Line.written) =
      some (choices.assignments form) := by
    rw [assignments?, hlines, Option.bind_some, choices.lineAssignments?_lines]
  have htaken := TakenFor.valid hassignments (choices.acceptable_assignments form)
  rw [choices_eq_iff]
  rw [choices.chosen_assignments] at htaken
  exact htaken

example : ((⟨none, some .json, none⟩ : Choices).lines .headersBack).flatMap Line.written =
    "[output.json]\n[output]\n".toList := rfl

end WifiDirect.Settings
