import WifiDirect.Proofs.ServiceNames
import Mathlib.Logic.Function.Iterate

/-!
# Reading a name where a cursor stands

`readNameAt?_recognises`: at each position of a buffer a name is read exactly if labels and an
ending stand there (`NameAt`), of which there is at most one way. The reading goes in rounds
(`Reading.step`), each a label or the ending. A round that does not fail moves the cursor forward,
so that the reading has ended after at most as many rounds as there are bytes, and one more; the
cursor never passes the end of the buffer, and whatever is taken lies in it (`Reading.Inside`).
-/

namespace WifiDirect.Service

/-! ### Cursors -/

/-- A part of a buffer, from one position to another. -/
structure Span where
  start : Nat
  stop : Nat

/-- A position in a buffer, and the parts that were taken to get there, the last one first. -/
structure Cursor where
  position : Nat
  taken : List Span

namespace Cursor

/-- The cursor behind `n` bytes more. -/
def advance (n : Nat) (c : Cursor) : Cursor where
  position := c.position + n
  taken := ⟨c.position, c.position + n⟩ :: c.taken

/-- The next `n` bytes, if the buffer has as many, and the cursor behind them. -/
def take? (bs : Bytes) (n : Nat) (c : Cursor) : Option (Bytes × Cursor) :=
  if c.position + n ≤ bs.length then
    some (bs.extract c.position (c.position + n), c.advance n)
  else none

/-- The next byte and the cursor behind it. -/
def byte? (bs : Bytes) (c : Cursor) : Option (UInt8 × Cursor) :=
  (c.take? bs 1).bind fun (front, c') => front.head?.map fun b => (b, c')

@[simp] theorem position_advance (n : Nat) (c : Cursor) :
    (c.advance n).position = c.position + n := rfl

@[simp] theorem taken_advance (n : Nat) (c : Cursor) :
    (c.advance n).taken = ⟨c.position, c.position + n⟩ :: c.taken := rfl

variable {bs : Bytes} {c : Cursor}

/-- **Taking bytes is cutting them off what the cursor stands before.** -/
theorem take?_eq (n : Nat) (hc : c.position ≤ bs.length) :
    c.take? bs n =
      (Bytes.splitExact n (bs.drop c.position)).map fun cut => (cut.1, c.advance n) := by
  have hlength : ((bs.drop c.position).take n).length = n ↔ c.position + n ≤ bs.length := by
    rw [List.length_take, List.length_drop]
    omega
  have hextract : bs.extract c.position (c.position + n) = (bs.drop c.position).take n := by
    rw [List.extract_eq_take_drop, Nat.add_sub_cancel_left]
  rw [take?, Bytes.splitExact, hextract]
  by_cases h : c.position + n ≤ bs.length
  · rw [if_pos h, if_pos (hlength.2 h)]
    rfl
  · rw [if_neg h, if_neg fun heq => h (hlength.1 heq)]
    rfl

theorem byte?_of_drop_nil (h : bs.drop c.position = []) (hc : c.position ≤ bs.length) :
    c.byte? bs = none := by
  rw [byte?, take?_eq 1 hc, h]
  rfl

theorem byte?_of_drop_cons {b : UInt8} {rest : Bytes} (h : bs.drop c.position = b :: rest)
    (hc : c.position ≤ bs.length) : c.byte? bs = some (b, c.advance 1) := by
  rw [byte?, take?_eq 1 hc, h]
  rfl

/-- What follows the bytes that were taken, and where it begins. -/
theorem drop_advance (n : Nat) (front : Bytes) {rest : Bytes} (hn : front.length = n)
    (h : bs.drop c.position = front ++ rest) (hc : c.position ≤ bs.length) :
    bs.drop (c.advance n).position = rest ∧ (c.advance n).position ≤ bs.length ∧
      (c.advance n).position = bs.length - rest.length := by
  have hlength := congrArg List.length h
  rw [List.length_drop, List.length_append] at hlength
  rw [position_advance, ← List.drop_drop, h, ← hn, List.drop_left]
  exact ⟨rfl, by omega, by omega⟩

/-- Taking leads to a cursor further on in the buffer. -/
theorem advance_of_take? {n : Nat} {front : Bytes} {c' : Cursor}
    (h : c.take? bs n = some (front, c')) :
    c' = c.advance n ∧ c.position + n ≤ bs.length := by
  rw [take?] at h
  split at h
  · rename_i hle
    exact ⟨(Prod.mk.inj (Option.some.inj h)).2.symm, hle⟩
  · cases h

theorem advance_of_byte? {b : UInt8} {c' : Cursor} (h : c.byte? bs = some (b, c')) :
    c' = c.advance 1 ∧ c.position + 1 ≤ bs.length := by
  obtain ⟨⟨front, d⟩, htake, h⟩ := Option.bind_eq_some_iff.1 h
  obtain ⟨b', -, h⟩ := Option.map_eq_some_iff.1 h
  obtain ⟨-, rfl⟩ := Prod.mk.inj h
  exact advance_of_take? htake

/-- The cursor stands in the buffer, behind `start`, and so does what was taken. -/
structure Inside (bs : Bytes) (start : Nat) (c : Cursor) : Prop where
  start_le : start ≤ c.position
  le_length : c.position ≤ bs.length
  of_mem : ∀ span ∈ c.taken, start ≤ span.start ∧ span.start ≤ span.stop ∧ span.stop ≤ bs.length

theorem Inside.advance {start n : Nat} (h : c.Inside bs start) (hn : c.position + n ≤ bs.length) :
    (c.advance n).Inside bs start := by
  have hstart := h.start_le
  refine ⟨?_, hn, fun span hspan => ?_⟩
  · rw [position_advance]
    omega
  · rcases List.mem_cons.1 hspan with rfl | hspan
    · exact ⟨hstart, Nat.le_add_right _ _, hn⟩
    · exact h.of_mem span hspan

end Cursor

/-! ### Rounds -/

/-- Where the reading of a name stands. -/
inductive Reading
  /-- Before a label or the ending, with the labels before it read. -/
  | running (cursor : Cursor) (name : String)
  /-- Behind the name. -/
  | done (cursor : Cursor) (name : String)
  /-- Where there is no name. -/
  | failed (cursor : Cursor)

namespace Reading

/-- The cursor of a reading. -/
def cursor : Reading → Cursor
  | running c _ | done c _ | failed c => c

/-- What a reading has come to, if it has ended: the name and the position behind it, if there is a
name. -/
def outcome? : Reading → Option (Option (String × Nat))
  | running .. => none
  | done c name => some (some (name, c.position))
  | failed _ => some none

/-- A round: a label, or the ending. -/
def step (query? : Option String) (bs : Bytes) : Reading → Reading
  | running c name =>
    match c.byte? bs with
    | none => failed c
    | some (b, c) =>
      if b = endByte then done c name
      else if b = pointerByte then
        match c.byte? bs with
        | none => failed c
        | some (key, c) =>
          match Service.suffix? query? key with
          | none => failed c
          | some suffix => done c (name ++ suffix)
      else
        match c.take? bs b.toNat with
        | none => failed c
        | some (label, c) => running c (name ++ Utf8.lossyText label ++ ".")
  | ended => ended

variable {query? : Option String} {bs : Bytes} {c : Cursor} {name : String}

/-- **A round stays in the buffer, and moves the cursor forward** unless it fails. -/
theorem inside_step {start : Nat} (h : c.Inside bs start) :
    (step query? bs (running c name)).cursor.Inside bs start ∧
      ((step query? bs (running c name)).outcome? = some none ∨
        c.position < (step query? bs (running c name)).cursor.position) := by
  rw [step]
  cases hbyte : c.byte? bs with
  | none => exact ⟨h, .inl rfl⟩
  | some first =>
    obtain ⟨b, c'⟩ := first
    obtain ⟨rfl, hle⟩ := Cursor.advance_of_byte? hbyte
    have hfirst := h.advance hle
    have hlt : c.position < (c.advance 1).position := Nat.lt_succ_self _
    dsimp only
    split_ifs with hend hpointer
    · exact ⟨hfirst, .inr hlt⟩
    · cases hkey : (c.advance 1).byte? bs with
      | none => exact ⟨hfirst, .inl rfl⟩
      | some second =>
        obtain ⟨key, c'⟩ := second
        obtain ⟨rfl, hle⟩ := Cursor.advance_of_byte? hkey
        have hsecond := hfirst.advance hle
        dsimp only
        cases Service.suffix? query? key with
        | none => exact ⟨hsecond, .inl rfl⟩
        | some suffix => exact ⟨hsecond, .inr (hlt.trans (Nat.lt_succ_self _))⟩
    · cases hlabel : (c.advance 1).take? bs b.toNat with
      | none => exact ⟨hfirst, .inl rfl⟩
      | some cut =>
        obtain ⟨label, c'⟩ := cut
        obtain ⟨rfl, hle⟩ := Cursor.advance_of_take? hlabel
        exact ⟨hfirst.advance hle, .inr (hlt.trans_le (Nat.le_add_right _ _))⟩

/-- Nothing happens behind the name, nor where there is none. -/
theorem iterate_done (n : Nat) : (step query? bs)^[n] (done c name) = done c name :=
  Function.iterate_fixed rfl n

theorem iterate_failed (n : Nat) : (step query? bs)^[n] (failed c) = failed c :=
  Function.iterate_fixed rfl n

/-- The reading of a name at a position after some rounds. -/
def afterRounds (query? : Option String) (bs : Bytes) (start n : Nat) : Reading :=
  (step query? bs)^[n] (running ⟨start, []⟩ "")

theorem afterRounds_succ (query? : Option String) (bs : Bytes) (start n : Nat) :
    afterRounds query? bs start (n + 1) = step query? bs (afterRounds query? bs start n) :=
  Function.iterate_succ_apply' _ _ _

/-- **The whole reading stays in the buffer.** -/
theorem inside_afterRounds (query? : Option String) {start : Nat} (hstart : start ≤ bs.length)
    (n : Nat) : (afterRounds query? bs start n).cursor.Inside bs start := by
  induction n with
  | zero => exact ⟨le_rfl, hstart, nofun⟩
  | succ n ih =>
    rw [afterRounds_succ]
    cases h : afterRounds query? bs start n with
    | running c name =>
      rw [h] at ih
      exact (inside_step ih).1
    | done c name =>
      rw [h] at ih
      exact ih
    | failed c =>
      rw [h] at ih
      exact ih

/-! ### What a reading comes to -/

section Step
variable {b : UInt8} {rest : Bytes} (hc : c.position ≤ bs.length)
include hc

theorem step_of_nil (h : bs.drop c.position = []) :
    step query? bs (running c name) = failed c := by
  rw [step, Cursor.byte?_of_drop_nil h hc]

theorem step_of_end (h : bs.drop c.position = endByte :: rest) :
    step query? bs (running c name) = done (c.advance 1) name := by
  rw [step, Cursor.byte?_of_drop_cons h hc]
  rfl

theorem step_of_pointer_nil (h : bs.drop c.position = [pointerByte]) :
    step query? bs (running c name) = failed (c.advance 1) := by
  obtain ⟨hrest, hle, -⟩ := Cursor.drop_advance 1 [pointerByte] rfl h hc
  rw [step, Cursor.byte?_of_drop_cons h hc]
  dsimp only
  rw [if_neg (by decide), if_pos rfl, Cursor.byte?_of_drop_nil hrest hle]

theorem step_of_pointer {key : UInt8} (h : bs.drop c.position = pointerByte :: key :: rest) :
    step query? bs (running c name) =
      match Service.suffix? query? key with
      | none => failed ((c.advance 1).advance 1)
      | some suffix => done ((c.advance 1).advance 1) (name ++ suffix) := by
  obtain ⟨hrest, hle, -⟩ := Cursor.drop_advance 1 [pointerByte] rfl h hc
  rw [step, Cursor.byte?_of_drop_cons h hc]
  dsimp only
  rw [if_neg (by decide), if_pos rfl, Cursor.byte?_of_drop_cons hrest hle]

theorem step_of_splitExact_eq_none (h : bs.drop c.position = b :: rest) (hend : b ≠ endByte)
    (hpointer : b ≠ pointerByte) (hsplit : rest.splitExact b.toNat = none) :
    step query? bs (running c name) = failed (c.advance 1) := by
  obtain ⟨hrest, hle, -⟩ := Cursor.drop_advance 1 [b] rfl h hc
  rw [step, Cursor.byte?_of_drop_cons h hc]
  dsimp only
  rw [if_neg hend, if_neg hpointer, Cursor.take?_eq b.toNat hle, hrest, hsplit]
  rfl

/-- Behind a label the reading goes on with what follows it. -/
theorem step_of_splitExact {label rest' : Bytes} (h : bs.drop c.position = b :: rest)
    (hend : b ≠ endByte) (hpointer : b ≠ pointerByte)
    (hsplit : rest.splitExact b.toNat = some (label, rest')) :
    ∃ c' : Cursor, step query? bs (running c name) =
        running c' (name ++ Utf8.lossyText label ++ ".") ∧
      c'.position ≤ bs.length ∧ bs.drop c'.position = rest' ∧ rest'.length ≤ rest.length := by
  obtain ⟨hrest, hle, -⟩ := Cursor.drop_advance 1 [b] rfl h hc
  obtain ⟨hlength, rfl⟩ := Bytes.splitExact_eq_some_iff.1 hsplit
  obtain ⟨hrest', hle', -⟩ := Cursor.drop_advance b.toNat label hlength hrest hle
  refine ⟨(c.advance 1).advance b.toNat, ?_, hle', hrest', ?_⟩
  · rw [step, Cursor.byte?_of_drop_cons h hc]
    dsimp only
    rw [if_neg hend, if_neg hpointer, Cursor.take?_eq b.toNat hle, hrest, hsplit]
    rfl
  · rw [List.length_append]
    omega

end Step

/-- **After as many rounds as bytes are left, and one more, the reading has ended** with the name
that is read from these bytes. -/
theorem outcome?_iterate {rest : Bytes} {n : Nat} (hc : c.position ≤ bs.length)
    (hrest : bs.drop c.position = rest) (hn : rest.length ≤ n) :
    ((step query? bs)^[n + 1] (running c name)).outcome? =
      some ((readName? query? rest).map fun read =>
        (name ++ read.1, bs.length - read.2.length)) := by
  -- along the reading of the bytes: a label leaves fewer bytes and uses up one round
  fun_induction readName? query? rest generalizing c name n with
  | case1 =>
    rw [Function.iterate_succ_apply, step_of_nil hc hrest, iterate_failed]
    rfl
  | case2 rest =>
    obtain ⟨-, -, hposition⟩ := Cursor.drop_advance 1 [endByte] rfl hrest hc
    rw [Function.iterate_succ_apply, step_of_end hc hrest, iterate_done, outcome?, hposition,
      Option.map_some, String.append_empty]
  | case3 =>
    rw [Function.iterate_succ_apply, step_of_pointer_nil hc hrest, iterate_failed]
    rfl
  | case4 key rest =>
    obtain ⟨hkey, hle, -⟩ := Cursor.drop_advance 1 [pointerByte] rfl hrest hc
    obtain ⟨-, -, hposition⟩ := Cursor.drop_advance 1 [key] rfl hkey hle
    rw [Function.iterate_succ_apply, step_of_pointer hc hrest]
    cases Service.suffix? query? key with
    | none =>
      dsimp only
      rw [iterate_failed]
      rfl
    | some suffix =>
      dsimp only
      rw [iterate_done, outcome?, hposition]
      rfl
  | case5 b rest hend hpointer hsplit =>
    rw [Function.iterate_succ_apply, step_of_splitExact_eq_none hc hrest hend hpointer hsplit,
      iterate_failed]
    rfl
  | case6 b rest hend hpointer label rest' hsplit hread ih =>
    obtain ⟨c', hstep, hc', hrest', hle⟩ := step_of_splitExact hc hrest hend hpointer hsplit
    rw [List.length_cons] at hn
    obtain ⟨n, rfl⟩ : ∃ m, n = m + 1 := ⟨n - 1, by omega⟩
    rw [Function.iterate_succ_apply, hstep, ih hc' hrest' (by omega), hread]
    rfl
  | case7 b rest hend hpointer label rest' hsplit text after hread ih =>
    obtain ⟨c', hstep, hc', hrest', hle⟩ := step_of_splitExact hc hrest hend hpointer hsplit
    rw [List.length_cons] at hn
    obtain ⟨n, rfl⟩ : ∃ m, n = m + 1 := ⟨n - 1, by omega⟩
    rw [Function.iterate_succ_apply, hstep, ih hc' hrest' (by omega), hread]
    simp only [Option.map_some, String.append_assoc]

end Reading

/-! ### The names at a position -/

/-- The bytes that end a name, and the suffix that they stand for. -/
inductive EndsIn (query? : Option String) : Bytes → String → Prop
  | stop : EndsIn query? [0x00] ""
  | tcp : EndsIn query? [0xC0, 0x0C] "_tcp.local."
  | noService : EndsIn query? [0xC0, 0x11] "local."
  | udp : EndsIn query? [0xC0, 0x1C] "_udp.local."
  | query {query : String} (h : query? = some query) : EndsIn query? [0xC0, 0x27] query

/-- From one position to another a buffer holds labels and an ending; the name is the texts of the
labels, each with a dot behind it, and the suffix. -/
def NameAt (query? : Option String) (bs : Bytes) (start stop : Nat) (name : String) : Prop :=
  stop ≤ bs.length ∧ ∃ (labels : List Label) (ending : Bytes) (suffix : String),
    bs.extract start stop = labels.flatMap Label.bytes ++ ending ∧ EndsIn query? ending suffix ∧
      name = nameText labels suffix

/-- The name at a position and the position behind it. -/
def readNameAt? (query? : Option String) (bs : Bytes) (start : Nat) : Option (String × Nat) :=
  (readName? query? (bs.drop start)).map fun read => (read.1, bs.length - read.2.length)

section NameAt
variable {query? : Option String} {bs : Bytes} {start stop : Nat} {name : String}

theorem endsIn_iff {ending : Bytes} {suffix : String} :
    EndsIn query? ending suffix ↔
      ∃ e : NameEnd, e.bytes = ending ∧ e.suffix? query? = some suffix := by
  constructor
  · intro h
    cases h with
    | stop => exact ⟨.stop, rfl, rfl⟩
    | tcp => exact ⟨.pointer 0x0C, rfl, rfl⟩
    | noService => exact ⟨.pointer 0x11, rfl, rfl⟩
    | udp => exact ⟨.pointer 0x1C, rfl, rfl⟩
    | query h => exact ⟨.pointer 0x27, rfl, h⟩
  · rintro ⟨e, rfl, hsuffix⟩
    cases e with
    | stop =>
      obtain rfl : "" = suffix := Option.some.inj hsuffix
      exact .stop
    | pointer key =>
      rw [NameEnd.suffix?, Service.suffix?] at hsuffix
      split_ifs at hsuffix with htcp hlocal hudp hquery
      · subst htcp
        cases hsuffix
        exact .tcp
      · subst hlocal
        cases hsuffix
        exact .noService
      · subst hudp
        cases hsuffix
        exact .udp
      · subst hquery
        exact .query hsuffix

theorem EndsIn.length_pos {ending : Bytes} {suffix : String} (h : EndsIn query? ending suffix) :
    0 < ending.length := by
  cases h <;> exact Nat.succ_pos _

/-- A name takes at least one byte. -/
theorem NameAt.lt (h : NameAt query? bs start stop name) : start < stop := by
  obtain ⟨-, labels, ending, suffix, hextract, hending, -⟩ := h
  have hpos := hending.length_pos
  have hlength := congrArg List.length hextract
  rw [List.extract_eq_take_drop, List.length_take, List.length_append] at hlength
  omega

/-- **A name is read at a position exactly if it stands there.** -/
theorem readNameAt?_eq_some_iff (hstart : start ≤ bs.length) :
    readNameAt? query? bs start = some (name, stop) ↔ NameAt query? bs start stop name := by
  constructor
  · intro h
    obtain ⟨⟨name', rest⟩, hread, h⟩ := Option.map_eq_some_iff.1 h
    obtain ⟨rfl, rfl⟩ := Prod.mk.inj h
    obtain ⟨labels, ending, suffix, hbytes, hsuffix, hname⟩ := readName?_eq_some_iff.1 hread
    refine ⟨Nat.sub_le _ _, labels, ending.bytes, suffix, ?_, endsIn_iff.2 ⟨ending, rfl, hsuffix⟩,
      hname⟩
    have hlength := congrArg List.length hbytes
    rw [List.length_drop, List.length_append] at hlength
    have hstop : bs.length - rest.length - start =
        (labels.flatMap Label.bytes ++ ending.bytes).length := by omega
    rw [List.extract_eq_take_drop, hstop, hbytes, List.take_left]
  · intro h
    have hlt := h.lt
    obtain ⟨hstop, labels, ending, suffix, hextract, hending, hname⟩ := h
    obtain ⟨e, rfl, hsuffix⟩ := endsIn_iff.1 hending
    rw [List.extract_eq_take_drop] at hextract
    have hbytes : bs.drop start = labels.flatMap Label.bytes ++ e.bytes ++ bs.drop stop := by
      have hdrop : bs.drop stop = (bs.drop start).drop (stop - start) := by
        rw [List.drop_drop, Nat.add_sub_cancel' hlt.le]
      rw [← hextract, hdrop, List.take_append_drop]
    have hread := readName?_eq_some_iff.2 ⟨labels, e, suffix, hbytes, hsuffix, hname⟩
    have hposition : bs.length - (bs.drop stop).length = stop := by
      rw [List.length_drop]
      omega
    rw [readNameAt?, hread, Option.map_some]
    dsimp only
    rw [hposition]

/-- **At a position at most one name stands.** -/
theorem NameAt.unique {stop' : Nat} {name' : String} (hstart : start ≤ bs.length)
    (h : NameAt query? bs start stop name) (h' : NameAt query? bs start stop' name') :
    stop = stop' ∧ name = name' := by
  have hread := (readNameAt?_eq_some_iff hstart).2 h
  rw [(readNameAt?_eq_some_iff hstart).2 h', Option.some.injEq, Prod.mk.injEq] at hread
  exact ⟨hread.2.symm, hread.1.symm⟩

end NameAt

/-- **Reading recognises the names at a position.** The position behind a name is the only one up to
which a name stands. The reading has ended after at most one round more than bytes are left; until
then each round moves the cursor forward or fails, and no round leaves the buffer or takes anything
outside it. -/
theorem readNameAt?_recognises (query? : Option String) (bs : Bytes) (start : Nat)
    (hstart : start ≤ bs.length) :
    (∀ name stop, readNameAt? query? bs start = some (name, stop) ↔
      NameAt query? bs start stop name) ∧
    (∀ name name' stop stop', NameAt query? bs start stop name →
      NameAt query? bs start stop' name' → stop = stop' ∧ name = name') ∧
    (∀ name stop, readNameAt? query? bs start = some (name, stop) →
      start < stop ∧ stop ≤ bs.length) ∧
    (∀ n, bs.length - start < n →
      (Reading.afterRounds query? bs start n).outcome? = some (readNameAt? query? bs start)) ∧
    (∀ n c name, Reading.afterRounds query? bs start n = .running c name →
      (Reading.afterRounds query? bs start (n + 1)).outcome? = some none ∨
        c.position < (Reading.afterRounds query? bs start (n + 1)).cursor.position) ∧
    ∀ n, (Reading.afterRounds query? bs start n).cursor.Inside bs start := by
  refine ⟨fun name stop => readNameAt?_eq_some_iff hstart,
    fun name name' stop stop' => NameAt.unique hstart, fun name stop hread => ?_, fun n hn => ?_,
    fun n c name hrun => ?_, Reading.inside_afterRounds query? hstart⟩
  · have hname := (readNameAt?_eq_some_iff hstart).1 hread
    exact ⟨hname.lt, hname.1⟩
  · obtain ⟨n, rfl⟩ : ∃ m, n = m + 1 := ⟨n - 1, by omega⟩
    have hlength : (bs.drop start).length ≤ n := by
      rw [List.length_drop]
      omega
    rw [Reading.afterRounds, Reading.outcome?_iterate (c := ⟨start, []⟩) hstart rfl hlength]
    simp only [String.empty_append]
    rfl
  · have hinside := Reading.inside_afterRounds query? hstart n
    rw [hrun] at hinside
    rw [Reading.afterRounds_succ, hrun]
    exact (Reading.inside_step hinside).2

/-- The name of a printer behind the pointer to the query, read where the answer begins. -/
theorem readNameAt?_recognises_printer :
    readNameAt? (some "_ipp._tcp.local.") [4, 95, 105, 112, 112, 192, 12, 0, 12, 1, 9, 77, 121, 80,
        114, 105, 110, 116, 101, 114, 192, 39] 10 = some ("MyPrinter._ipp._tcp.local.", 22) ∧
      (∀ name stop, NameAt (some "_ipp._tcp.local.") [4, 95, 105, 112, 112, 192, 12, 0, 12, 1, 9,
        77, 121, 80, 114, 105, 110, 116, 101, 114, 192, 39] 10 stop name → stop = 22) ∧
      (Reading.afterRounds (some "_ipp._tcp.local.") [4, 95, 105, 112, 112, 192, 12, 0, 12, 1, 9,
        77, 121, 80, 114, 105, 110, 116, 101, 114, 192, 39] 10 13).outcome? =
          some (some ("MyPrinter._ipp._tcp.local.", 22)) := by
  obtain ⟨hiff, hunique, -, hends, -, -⟩ := readNameAt?_recognises (some "_ipp._tcp.local.")
    [4, 95, 105, 112, 112, 192, 12, 0, 12, 1, 9, 77, 121, 80, 114, 105, 110, 116, 101, 114, 192, 39]
    10 (by decide)
  have hname := (hiff "MyPrinter._ipp._tcp.local." 22).2
    ⟨by decide, [⟨[77, 121, 80, 114, 105, 110, 116, 101, 114], by decide, by decide, by decide⟩],
      [192, 39], "_ipp._tcp.local.", by decide, .query rfl, by decide +kernel⟩
  refine ⟨hname, fun name stop h => (hunique _ _ _ _ h ((hiff _ _).1 hname)).1, ?_⟩
  rw [hends 13 (by decide), hname]

end WifiDirect.Service
