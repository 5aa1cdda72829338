import WifiDirect.Proofs.AddressText
import WifiDirect.Replay

/-!
# Lines of an input

How a run of characters or bytes falls into lines, and what replaying it comes to line by line
(`Replay.run_encode`). The lines up to a line end are replayed as if they were the whole input
(`Replay.run_append`).

Stretches between separators come one after the other; what holds of the last stretch and carries
over a stretch and its separator holds of all (`separated_induction`).
-/

namespace WifiDirect

/-! ### Stretches between separators -/

theorem separated_induction {α : Type} [DecidableEq α] (sep : α) {P : List α → Prop}
    (last : ∀ as, sep ∉ as → P as) (next : ∀ as rest, sep ∉ as → P rest → P (as ++ sep :: rest))
    (as : List α) : P as := by
  obtain ⟨n, hn⟩ : ∃ n, as.length ≤ n := ⟨_, le_rfl⟩
  induction n generalizing as with
  | zero =>
    obtain rfl : as = [] := List.eq_nil_of_length_eq_zero (by omega)
    exact last [] (List.not_mem_nil)
  | succ n ih =>
    by_cases h : sep ∈ as
    · obtain ⟨front, rest, rfl, hfront⟩ := List.eq_append_cons_of_mem h
      rw [List.length_append, List.length_cons] at hn
      exact next front rest hfront (ih rest (by omega))
    · exact last as h

/-- Whether a stretch begins behind the items. -/
def EndsLine {α : Type} (sep : α) (as : List α) : Prop :=
  as = [] ∨ ∃ front, as = front ++ [sep]

theorem EndsLine.append {α : Type} {sep : α} {as bs : List α} (ha : EndsLine sep as)
    (hb : EndsLine sep bs) : EndsLine sep (as ++ bs) := by
  rcases hb with rfl | ⟨front, rfl⟩
  · rwa [List.append_nil]
  · exact .inr ⟨as ++ front, (List.append_assoc _ _ _).symm⟩

theorem EndsLine.of_append {α : Type} {sep : α} {as rest : List α}
    (h : EndsLine sep (as ++ rest)) : EndsLine sep rest := by
  rcases List.eq_nil_or_concat rest with rfl | ⟨init, a, rfl⟩
  · exact .inl rfl
  · rcases h with h | ⟨front, h⟩
    · exact absurd h (by simp)
    · rw [List.concat_eq_append, ← List.append_assoc] at h
      exact .inr ⟨init, by rw [List.concat_eq_append, (List.append_inj' h rfl).2]⟩

/-! ### Blanks at the ends -/

namespace Text

theorem dropTrailing_append {after : List Char} (h : ∀ c ∈ after, isBlank c) (cs : List Char) :
    dropTrailing (cs ++ after) = dropTrailing cs := by
  have hreverse : ∀ c ∈ after.reverse, isBlank c := fun c hc => h c (List.mem_reverse.1 hc)
  rw [dropTrailing, List.reverse_append, List.dropWhile_append_of_pos hreverse, dropTrailing]

/-- Blanks around a text do not matter. -/
theorem trim_append {before after : List Char} (hbefore : ∀ c ∈ before, isBlank c)
    (hafter : ∀ c ∈ after, isBlank c) (cs : List Char) :
    trim (before ++ (cs ++ after)) = trim cs := by
  rw [trim, List.dropWhile_append_of_pos hbefore, List.dropWhile_append]
  cases hcs : cs.dropWhile isBlank with
  | nil =>
    have hall : after.dropWhile isBlank = [] := by
      rw [← List.append_nil after, List.dropWhile_append_of_pos hafter]
      rfl
    rw [trim, hcs, hall]
    rfl
  | cons c rest => rw [trim, hcs, List.isEmpty_cons, if_neg Bool.false_ne_true,
      dropTrailing_append hafter]

theorem trim_concat {c : Char} (h : isBlank c) (cs : List Char) : trim (cs ++ [c]) = trim cs :=
  trim_append (List.forall_mem_nil _) (List.forall_mem_singleton.2 h) cs

/-- What a text begins with is left. -/
theorem head?_trim_cons {c : Char} (h : isBlank c = false) (cs : List Char) :
    (trim (c :: cs)).head? = some c := by
  have hc : ¬ isBlank c = true := by rw [h]; exact Bool.false_ne_true
  rw [trim, List.dropWhile_cons_of_neg hc, dropTrailing, List.reverse_cons, List.dropWhile_append]
  split
  · rw [List.dropWhile_cons_of_neg hc]
    rfl
  · rw [List.reverse_append]
    rfl

/-- A text with no blank at either end is left as it is. -/
theorem trim_eq_self {cs front rest : List Char} {c d : Char} (hfront : cs = c :: rest)
    (hc : isBlank c = false) (hlast : cs = front ++ [d]) (hd : isBlank d = false) :
    trim cs = cs := by
  have hdrop : cs.dropWhile isBlank = cs := by
    rw [hfront]
    exact List.dropWhile_cons_of_neg (by rw [hc]; exact Bool.false_ne_true)
  rw [trim, hdrop, dropTrailing, hlast, List.reverse_append, List.reverse_singleton,
    List.singleton_append, List.dropWhile_cons_of_neg (by rw [hd]; exact Bool.false_ne_true),
    List.reverse_cons, List.reverse_reverse]

end Text

/-! ### Line feeds in UTF-8 -/

namespace Utf8

open Replay (lineFeed)

theorem le_of_mem_continuation {k v : Nat} {b : UInt8} (h : b ∈ continuation k v) :
    0x80 ≤ b.toNat := by
  induction k with
  | zero => cases h
  | succ k ih =>
    rw [continuation, List.mem_cons] at h
    rcases h with rfl | h
    · rw [toNat_ofNat_tail]
      omega
    · exact ih h

/-- Only the line feed has the byte of a line feed. -/
theorem eq_of_lineFeed_mem_encodeChar {c : Char} (h : lineFeed ∈ String.utf8EncodeChar c) :
    c = '\n' := by
  by_cases hone : c.toNat < 0x80
  · rw [encodeChar_one hone, List.mem_singleton] at h
    have hcode : c.toNat = 10 := by
      have hbyte := congrArg UInt8.toNat h
      rw [UInt8.toNat_ofNat', Nat.mod_eq_of_lt (by omega)] at hbyte
      exact hbyte.symm
    rw [← Char.ofNat_toNat c, hcode]
  · have hhigh : ∀ b ∈ String.utf8EncodeChar c, 0x80 ≤ b.toNat := by
      intro b hb
      obtain ⟨first, p, hstart, hfit⟩ := exists_start c (by omega)
      have hbytes := encodeChar_of_start hstart hfit
      rw [Char.ofNat_toNat] at hbytes
      rw [hbytes, List.mem_cons] at hb
      rcases hb with rfl | hb
      · by_contra hlt
        rw [start_one (by omega)] at hstart
        cases hstart
      · exact le_of_mem_continuation hb
    exact absurd (hhigh lineFeed h) (by decide)

theorem encodeChar_newline : String.utf8EncodeChar '\n' = [lineFeed] :=
  encodeChar_one (by decide)

theorem lineFeed_not_mem_encode {cs : List Char} (h : '\n' ∉ cs) : lineFeed ∉ encode cs := by
  intro hmem
  obtain ⟨c, hc, hbyte⟩ := List.mem_flatMap.1 hmem
  exact h (eq_of_lineFeed_mem_encodeChar hbyte ▸ hc)

/-- A line feed ends the bytes of a text exactly if it ends the text. -/
theorem encode_eq_concat_lineFeed_iff {cs : List Char} {bs : Bytes} :
    encode cs = bs ++ [lineFeed] ↔ ∃ front, cs = front ++ ['\n'] ∧ bs = encode front := by
  constructor
  · intro h
    rcases List.eq_nil_or_concat cs with rfl | ⟨front, c, rfl⟩
    · exact absurd h.symm (by simp)
    · rw [List.concat_eq_append, encode_append, encode_cons, encode_nil, List.append_nil] at h
      have hne : String.utf8EncodeChar c ≠ [] := by
        intro hnil
        have hlength := String.length_utf8EncodeChar c
        rw [hnil] at hlength
        exact absurd hlength.symm (Nat.ne_of_gt c.utf8Size_pos)
      have hlast := congrArg List.getLast? h
      rw [List.getLast?_append, List.getLast?_concat, List.getLast?_eq_some_getLast hne,
        Option.some_or, Option.some.injEq] at hlast
      obtain rfl := eq_of_lineFeed_mem_encodeChar (hlast ▸ List.getLast_mem hne)
      rw [encodeChar_newline] at h
      exact ⟨front, List.concat_eq_append, (List.append_cancel_right h).symm⟩
  · rintro ⟨front, rfl, rfl⟩
    rw [encode_append, encode_cons, encodeChar_newline, encode_nil, List.append_nil]

theorem endsLine_encode {cs : List Char} (h : EndsLine '\n' cs) : EndsLine lineFeed (encode cs) := by
  rcases h with rfl | ⟨front, rfl⟩
  · exact .inl rfl
  · exact .inr ⟨encode front, encode_eq_concat_lineFeed_iff.2 ⟨front, rfl, rfl⟩⟩

theorem encode_eq_nil_iff {cs : List Char} : encode cs = [] ↔ cs = [] := by
  constructor
  · intro h
    cases cs with
    | nil => rfl
    | cons c cs =>
      rw [encode_cons, List.append_eq_nil_iff] at h
      have hlength := String.length_utf8EncodeChar c
      rw [h.1] at hlength
      exact absurd hlength.symm (Nat.ne_of_gt c.utf8Size_pos)
  · rintro rfl
    rfl

/-- What stands up to a line end in UTF-8 is UTF-8, and so is what follows. -/
theorem exists_encode_of_append {cs : List Char} {a b : Bytes} (ha : EndsLine lineFeed a)
    (h : encode cs = a ++ b) : (∃ as, a = encode as) ∧ ∃ bs, b = encode bs := by
  induction cs generalizing a with
  | nil =>
    obtain ⟨rfl, rfl⟩ := List.append_eq_nil_iff.1 h.symm
    exact ⟨⟨[], rfl⟩, [], rfl⟩
  | cons c cs ih =>
    rcases ha with rfl | ⟨front, rfl⟩
    · exact ⟨⟨[], rfl⟩, c :: cs, h.symm⟩
    rw [encode_cons] at h
    rcases List.append_eq_append_iff.1 h with ⟨a', ha', hcs⟩ | ⟨b', hc, rfl⟩
    · -- the line end is behind the first character
      have hends : EndsLine lineFeed (front ++ [lineFeed]) := .inr ⟨front, rfl⟩
      rw [ha'] at hends
      obtain ⟨⟨as, rfl⟩, hb⟩ := ih hends.of_append hcs
      exact ⟨⟨c :: as, by rw [ha', encode_cons]⟩, hb⟩
    · -- the line end is the first character
      obtain rfl : c = '\n' := eq_of_lineFeed_mem_encodeChar (by rw [hc]; simp)
      have hlength := congrArg List.length hc
      rw [encodeChar_newline, List.length_append, List.length_append, List.length_singleton]
        at hlength
      obtain rfl : front = [] := List.eq_nil_of_length_eq_zero (by omega)
      obtain rfl : b' = [] := List.eq_nil_of_length_eq_zero (by omega)
      exact ⟨⟨['\n'], (encode_eq_concat_lineFeed_iff.2 ⟨[], rfl, rfl⟩).symm⟩, cs, rfl⟩

end Utf8

namespace Replay

/-! ### Lines of bytes -/

theorem linesFrom_append {body : Bytes} (h : lineFeed ∉ body) (begun rest : Bytes) :
    linesFrom begun (body ++ rest) = linesFrom (body.reverse ++ begun) rest := by
  induction body generalizing begun with
  | nil => rfl
  | cons b body ih =>
    rw [List.mem_cons, not_or] at h
    rw [List.cons_append, linesFrom, if_neg (Ne.symm h.1), ih h.2, List.reverse_cons,
      List.append_assoc, List.singleton_append]

theorem lines_of_not_mem {body : Bytes} (h : lineFeed ∉ body) (hne : body ≠ []) :
    lines body = [body] := by
  have hlines := linesFrom_append h [] []
  rw [List.append_nil, List.append_nil, linesFrom, if_neg (by simpa using hne),
    List.reverse_reverse] at hlines
  exact hlines

theorem lines_append_cons {body : Bytes} (h : lineFeed ∉ body) (rest : Bytes) :
    lines (body ++ lineFeed :: rest) = (body ++ [lineFeed]) :: lines rest := by
  rw [lines, linesFrom_append h, List.append_nil, linesFrom, if_pos rfl, List.reverse_cons,
    List.reverse_reverse]
  rfl

theorem lines_append {a : Bytes} (h : EndsLine lineFeed a) (b : Bytes) :
    lines (a ++ b) = lines a ++ lines b := by
  induction a using separated_induction lineFeed with
  | last a ha =>
    rcases h with rfl | ⟨front, rfl⟩
    · rfl
    · exact absurd List.mem_concat_self ha
  | next body rest hbody ih =>
    have hrest : EndsLine lineFeed rest := by
      rw [List.append_cons] at h
      exact h.of_append
    rw [List.append_assoc, List.cons_append, lines_append_cons hbody, ih hrest,
      lines_append_cons hbody, List.cons_append]

/-! ### What lines come to -/

theorem ofLines_append {interface : String} {front : List Bytes}
    (h : (ofLines interface front).error? = none) (rest : List Bytes) :
    ofLines interface (front ++ rest) =
      ⟨(ofLines interface front).reports ++ (ofLines interface rest).reports,
        (ofLines interface rest).error?⟩ := by
  induction front with
  | nil => rfl
  | cons line front ih =>
    rw [List.cons_append, ofLines]
    rw [ofLines] at h ⊢
    cases hline : report interface line with
    | error e =>
      rw [hline] at h
      cases h
    | ok r =>
      rw [hline] at h
      dsimp only at h ⊢
      rw [ih h]
      rfl

/-- **What stands up to a line end is replayed on its own**, and so is what follows. -/
theorem run_append {interface : String} {a : Bytes} (h : EndsLine lineFeed a)
    (hvalid : (run interface a).error? = none) (b : Bytes) :
    run interface (a ++ b) =
      ⟨(run interface a).reports ++ (run interface b).reports, (run interface b).error?⟩ := by
  rw [run, lines_append h]
  exact ofLines_append hvalid (lines b)

theorem report_encode (interface : String) (cs : List Char) :
    report interface (Utf8.encode cs) = .ok (reportText interface cs) := by
  rw [report, Utf8.decode_eq_ok_iff.2 rfl]
  rfl

theorem reportText_concat (interface : String) (cs : List Char) :
    reportText interface (cs ++ ['\n']) = reportText interface cs := by
  rw [reportText, Text.trim_concat (by decide)]
  rfl

/-- The texts of the lines that count: not blank and no comments. -/
def considered (cs : List Char) : List (List Char) :=
  ((Text.split '\n' cs).map Text.trim).filter fun text => text ≠ [] ∧ text.head? ≠ some '#'

/-- What a line that counts comes to. -/
def weigh (interface : String) (text : List Char) : Report :=
  match notification? text with
  | some n => .delivered (.ofNotification interface n)
  | none => .unparsable

theorem isCounted_weigh (interface : String) (text : List Char) :
    (weigh interface text).isCounted = true := by
  rw [weigh]
  split <;> rfl

theorem considered_of_not_mem {cs : List Char} (h : '\n' ∉ cs) :
    considered cs = [Text.trim cs].filter fun text => text ≠ [] ∧ text.head? ≠ some '#' := by
  rw [considered, Text.split_of_not_mem h, List.map_singleton]

theorem considered_append_cons {front : List Char} (h : '\n' ∉ front) (rest : List Char) :
    considered (front ++ '\n' :: rest) = considered front ++ considered rest := by
  rw [considered_of_not_mem h, considered, Text.split_append_cons h, List.map_cons,
    ← List.singleton_append, List.filter_append]
  rfl

/-- A line counts if its text does, and comes to what the text comes to. -/
theorem filter_reportText (interface : String) {cs : List Char} (h : '\n' ∉ cs) :
    [reportText interface cs].filter Report.isCounted = (considered cs).map (weigh interface) := by
  rw [considered_of_not_mem h]
  by_cases hskip : Text.trim cs = [] ∨ (Text.trim cs).head? = some '#'
  · have htext : ¬ (Text.trim cs ≠ [] ∧ (Text.trim cs).head? ≠ some '#') := by tauto
    rw [reportText, if_pos hskip, List.filter_cons_of_neg Bool.false_ne_true,
      List.filter_cons_of_neg (by simpa using htext)]
    rfl
  · have htext : Text.trim cs ≠ [] ∧ (Text.trim cs).head? ≠ some '#' := by tauto
    have hreport : reportText interface cs = weigh interface (Text.trim cs) := if_neg hskip
    rw [hreport, List.filter_cons_of_pos (isCounted_weigh _ _),
      List.filter_cons_of_pos (by simpa using htext)]
    rfl

/-- **Replaying a text** reaches its end, and its lines that count come to what their texts come
to. -/
theorem run_encode (interface : String) (cs : List Char) :
    (run interface (Utf8.encode cs)).error? = none ∧
      (run interface (Utf8.encode cs)).reports.filter Report.isCounted =
        (considered cs).map (weigh interface) := by
  induction cs using separated_induction '\n' with
  | last cs hcs =>
    by_cases hne : cs = []
    · rw [hne]
      exact ⟨rfl, rfl⟩
    · rw [run, lines_of_not_mem (Utf8.lineFeed_not_mem_encode hcs)
        (mt Utf8.encode_eq_nil_iff.1 hne), ofLines, report_encode]
      exact ⟨rfl, filter_reportText interface hcs⟩
  | next front rest hfront ih =>
    have hline : Utf8.encode front ++ [lineFeed] = Utf8.encode (front ++ ['\n']) :=
      (Utf8.encode_eq_concat_lineFeed_iff.2 ⟨front, rfl, rfl⟩).symm
    have hlines : lines (Utf8.encode (front ++ '\n' :: rest)) =
        Utf8.encode (front ++ ['\n']) :: lines (Utf8.encode rest) := by
      rw [Utf8.encode_append, Utf8.encode_cons, Utf8.encodeChar_newline, List.singleton_append,
        lines_append_cons (Utf8.lineFeed_not_mem_encode hfront), hline]
    rw [run, hlines, ofLines, report_encode, reportText_concat, considered_append_cons hfront,
      List.map_append, ← filter_reportText interface hfront]
    refine ⟨ih.1, ?_⟩
    rw [← ih.2, ← List.filter_append]
    rfl

end Replay

end WifiDirect
