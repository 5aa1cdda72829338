import WifiDirect.Json.Parser
import WifiDirect.Proofs.JsonTokens
import WifiDirect.Text.Blank

/-!
# JSON text as it is written

`parse?_render`: the text of a value is read as this value, of any value. The text holds no control
character (`le_of_mem_render`) and neither begins nor ends with a blank (`exists_render_eq_cons`,
`exists_render_eq_concat`), so it can stand on a line of its own.
-/

namespace WifiDirect.Json

/-! ### One token further -/

namespace State

/-- A token is taken off the front of a text. -/
theorem run_of_read? {c : Char} {cs rest : List Char} {t : Token} {state next : State}
    (hread : Token.read? (c :: cs) = some (t, rest)) (hblank : isBlank c = false)
    (hstep : state.step t = some next) : state.run (c :: cs) = next.run rest := by
  rw [run, hblank, if_neg (by decide)]
  split
  · rename_i hnone
    rw [hread] at hnone
    cases hnone
  · rename_i t' rest' hsome
    rw [hread] at hsome
    cases hsome
    rw [hstep]

/-- A value may begin in this state, inside of `stack`. -/
def Begins (state : State) (stack : List Frame) : Prop :=
  ∀ t, t ≠ .endArray → state.step t = begin stack t

theorem begins_value (stack : List Frame) : (value stack).Begins stack := by
  intro t _
  cases t <;> rfl

theorem begins_firstItem (stack : List Frame) : (firstItem stack).Begins (.array [] :: stack) := by
  intro t ht
  cases t <;> first | rfl | exact absurd rfl ht

/-- A key may follow in this state, behind the members `done`. -/
def TakesKey (state : State) (done : List (Option String × Json)) (stack : List Frame) : Prop :=
  ∀ name, state.step (.string name) = some (colon done name stack)

theorem takesKey_firstKey (stack : List Frame) : (firstKey stack).TakesKey [] stack :=
  fun _ => rfl

theorem takesKey_key (done : List (Option String × Json)) (stack : List Frame) :
    (key done stack).TakesKey done stack :=
  fun _ => rfl

/-- The written form of a key is taken off the front. -/
theorem TakesKey.run {state : State} {done : List (Option String × Json)} {stack : List Frame}
    (h : state.TakesKey done stack) (name : Option String) (rest : List Char) :
    state.run (renderString name ++ ':' :: rest) =
      (value (.object done name :: stack)).run rest := by
  have hread := Token.read?_renderString name (':' :: rest)
  have hcolon : (colon done name stack).run (':' :: rest) =
      (value (.object done name :: stack)).run rest := run_of_read? rfl rfl rfl
  rw [← hcolon]
  cases name with
  | none => exact run_of_read? hread rfl (h none)
  | some s => exact run_of_read? hread rfl (h (some s))

end State

/-! ### Values -/

theorem isBlank_eq_false_of_isDigit {c : Char} (h : c.isDigit) : isBlank c = false := by
  cases hb : isBlank c with
  | false => rfl
  | true =>
    simp only [isBlank, Bool.or_eq_true, beq_iff_eq] at hb
    rcases hb with ((rfl | rfl) | rfl) | rfl
    all_goals exact absurd h (by decide)

section Run

open State

mutual

/-- **Reading the text of a value** completes the value. -/
theorem run_render : ∀ (v : Json) {state : State} {stack : List Frame} {rest : List Char},
    state.Begins stack → Closes rest →
      state.run (v.render ++ rest) = (after v stack).run rest
  | .null, _, _, _, hstate, _ => run_of_read? rfl rfl (hstate .null nofun)
  | .bool true, _, _, _, hstate, _ => run_of_read? rfl rfl (hstate (.bool true) nofun)
  | .bool false, _, _, _, hstate, _ => run_of_read? rfl rfl (hstate (.bool false) nofun)
  | .number n, state, stack, rest, hstate, hrest => by
    have hread := Token.read?_render n hrest
    obtain ⟨c, cs, hcs, hc⟩ := n.exists_render_eq_cons
    have hblank : isBlank c = false := by
      rcases hc with rfl | hc
      · rfl
      · exact isBlank_eq_false_of_isDigit hc
    rw [hcs] at hread
    rw [render, hcs]
    exact run_of_read? hread hblank (hstate (.number n) nofun)
  | .string s, state, stack, rest, hstate, _ => by
    have hread := Token.read?_renderString s rest
    have hstep := hstate (.string s) nofun
    cases s with
    | none => exact run_of_read? hread rfl hstep
    | some s => exact run_of_read? hread rfl hstep
  | .array [], state, stack, rest, hstate, _ =>
    calc
      state.run ('[' :: ']' :: rest) = (firstItem stack).run (']' :: rest) :=
        run_of_read? rfl rfl (hstate .beginArray nofun)
      _ = (after (.array []) stack).run rest := run_of_read? rfl rfl rfl
  | .array (item :: items), state, stack, rest, hstate, _ => by
    rw [render, List.cons_append, List.cons_append, List.append_assoc, List.singleton_append]
    calc
      state.run ('[' :: (renderItems (item :: items) ++ ']' :: rest)) =
          (firstItem stack).run (renderItems (item :: items) ++ ']' :: rest) :=
        run_of_read? rfl rfl (hstate .beginArray nofun)
      _ = (after (.array (item :: items)) stack).run rest :=
        run_renderItems (item :: items) (List.cons_ne_nil item items) (begins_firstItem stack)
  | .object [], state, stack, rest, hstate, _ =>
    calc
      state.run ('{' :: '}' :: rest) = (firstKey stack).run ('}' :: rest) :=
        run_of_read? rfl rfl (hstate .beginObject nofun)
      _ = (after (.object []) stack).run rest := run_of_read? rfl rfl rfl
  | .object (member :: members), state, stack, rest, hstate, _ => by
    rw [render, List.cons_append, List.cons_append, List.append_assoc, List.singleton_append]
    calc
      state.run ('{' :: (renderMembers (member :: members) ++ '}' :: rest)) =
          (firstKey stack).run (renderMembers (member :: members) ++ '}' :: rest) :=
        run_of_read? rfl rfl (hstate .beginObject nofun)
      _ = (after (.object (member :: members)) stack).run rest :=
        run_renderMembers (member :: members) (List.cons_ne_nil member members)
          (takesKey_firstKey stack)

/-- Reading items to the end of their array completes the array. -/
theorem run_renderItems : ∀ (items : List Json), items ≠ [] →
    ∀ {state : State} {done : List Json} {stack : List Frame} {rest : List Char},
      state.Begins (.array done :: stack) →
        state.run (renderItems items ++ ']' :: rest) =
          (after (.array (done.reverse ++ items)) stack).run rest
  | [], hne, _, _, _, _, _ => absurd rfl hne
  | [item], _, state, done, stack, rest, hstate => by
    rw [renderItems, ← List.reverse_cons]
    calc
      state.run (item.render ++ ']' :: rest) =
          (after item (.array done :: stack)).run (']' :: rest) :=
        run_render item hstate (closes_cons (by decide) rest)
      _ = (after (.array (item :: done).reverse) stack).run rest := run_of_read? rfl rfl rfl
  | item :: next :: items, _, state, done, stack, rest, hstate => by
    have hcomma : ∀ cs, (after item (.array done :: stack)).run (',' :: cs) =
        (value (.array (item :: done) :: stack)).run cs := fun _ => run_of_read? rfl rfl rfl
    have hitems : (value (.array (item :: done) :: stack)).run
        (renderItems (next :: items) ++ ']' :: rest) =
          (after (.array ((item :: done).reverse ++ next :: items)) stack).run rest :=
      run_renderItems (next :: items) (List.cons_ne_nil next items) (begins_value _)
    rw [List.reverse_cons, List.append_assoc, List.singleton_append] at hitems
    rw [renderItems, List.append_assoc, List.cons_append,
      run_render item hstate (closes_cons (by decide) _), hcomma, hitems]
    exact nofun

/-- Reading members to the end of their object completes the object. -/
theorem run_renderMembers : ∀ (members : List (Option String × Json)), members ≠ [] →
    ∀ {state : State} {done : List (Option String × Json)} {stack : List Frame}
      {rest : List Char}, state.TakesKey done stack →
        state.run (renderMembers members ++ '}' :: rest) =
          (after (.object (done.reverse ++ members)) stack).run rest
  | [], hne, _, _, _, _, _ => absurd rfl hne
  | [(name, v)], _, state, done, stack, rest, hstate => by
    rw [renderMembers, List.append_assoc, List.cons_append, ← List.reverse_cons]
    calc
      state.run (renderString name ++ ':' :: (v.render ++ '}' :: rest)) =
          (value (.object done name :: stack)).run (v.render ++ '}' :: rest) :=
        hstate.run name _
      _ = (after v (.object done name :: stack)).run ('}' :: rest) :=
        run_render v (begins_value _) (closes_cons (by decide) rest)
      _ = (after (.object ((name, v) :: done).reverse) stack).run rest := run_of_read? rfl rfl rfl
  | (name, v) :: next :: members, _, state, done, stack, rest, hstate => by
    have hcomma : ∀ cs, (after v (.object done name :: stack)).run (',' :: cs) =
        (key ((name, v) :: done) stack).run cs := fun _ => run_of_read? rfl rfl rfl
    have hmembers : (key ((name, v) :: done) stack).run
        (renderMembers (next :: members) ++ '}' :: rest) =
          (after (.object (((name, v) :: done).reverse ++ next :: members)) stack).run rest :=
      run_renderMembers (next :: members) (List.cons_ne_nil next members) (takesKey_key _ stack)
    rw [List.reverse_cons, List.append_assoc, List.singleton_append] at hmembers
    rw [renderMembers, List.append_assoc, List.cons_append, List.append_assoc, List.cons_append,
      hstate.run, run_render v (begins_value _) (closes_cons (by decide) _), hcomma, hmembers]
    exact nofun

end

end Run

/-- **The text of a value is read as this value.** -/
theorem parse?_render (v : Json) : parse? v.render = some v := by
  have hrun := run_render v (State.begins_value []) closes_nil
  rw [List.append_nil] at hrun
  rw [parse?, hrun, State.run]

/-! ### Characters -/

/-- What a number is written with. -/
theorem Number.of_mem_render {n : Number} {c : Char} (h : c ∈ n.render) :
    c.isDigit ∨ c = '-' ∨ c = '.' ∨ c = 'e' := by
  rw [n.render_eq, List.mem_append, List.mem_append, List.mem_append] at h
  rcases h with ((h | h) | h) | h
  · cases hneg : n.negative with
    | false => simp [hneg] at h
    | true =>
      rw [hneg, if_pos rfl, List.mem_singleton] at h
      exact Or.inr (Or.inl h)
  · exact Or.inl (Nat.isDigit_of_mem_toDigits (by decide) (by decide) h)
  · cases hfraction : n.fraction with
    | nil => simp [hfraction, fractionChars] at h
    | cons d digits =>
      rw [hfraction] at h
      obtain rfl | ⟨d, -, rfl⟩ := (List.mem_cons.1 h).imp_right List.mem_map.1
      · exact Or.inr (Or.inr (Or.inl rfl))
      · refine Or.inl ?_
        rw [Nat.isDigit_digitChar]
        exact decide_eq_true d.isLt
  · cases hexponent : n.exponent with
    | none => simp [hexponent, exponentChars] at h
    | some i =>
      rw [hexponent, exponentChars, List.cons_append, List.mem_cons, List.mem_append] at h
      rcases h with rfl | h | h
      · exact Or.inr (Or.inr (Or.inr rfl))
      · by_cases hi : i < 0
        · rw [if_pos hi, List.mem_singleton] at h
          exact Or.inr (Or.inl h)
        · simp [hi] at h
      · exact Or.inl (Nat.isDigit_of_mem_toDigits (by decide) (by decide) h)

/-- A visible character that begins no comment. -/
def IsInk (c : Char) : Prop :=
  ' ' ≤ c ∧ Text.isBlank c = false ∧ c ≠ '#'

instance (c : Char) : Decidable (IsInk c) :=
  inferInstanceAs (Decidable (_ ∧ _))

theorem isInk_of_isDigit {c : Char} (h : c.isDigit) : IsInk c := by
  have hrange : 48 ≤ c.toNat ∧ c.toNat ≤ 57 := by
    simpa [Char.isDigit, UInt32.le_iff_toNat_le] using h
  refine ⟨?_, ?_, ?_⟩
  · show 32 ≤ c.toNat
    omega
  · simp only [Text.isBlank, Bool.or_eq_false_iff, Bool.and_eq_false_iff, beq_eq_false_iff_ne,
      decide_eq_false_iff_not]
    omega
  · rintro rfl
    exact absurd h (by decide)

theorem Number.isInk_of_mem_render {n : Number} {c : Char} (h : c ∈ n.render) : IsInk c := by
  rcases Number.of_mem_render h with h | rfl | rfl | rfl
  · exact isInk_of_isDigit h
  all_goals decide

mutual

/-- **The text of a value holds no control character.** -/
theorem le_of_mem_render : ∀ (v : Json) {c : Char}, c ∈ v.render → ' ' ≤ c
  | .null, c, h => le_of_all (by decide) h
  | .bool true, c, h => le_of_all (by decide) h
  | .bool false, c, h => le_of_all (by decide) h
  | .number n, c, h => (Number.isInk_of_mem_render h).1
  | .string s, c, h => le_of_mem_renderString h
  | .array items, c, h => by
    rw [render, List.cons_append, List.mem_cons, List.mem_append, List.mem_singleton] at h
    rcases h with rfl | h | rfl
    · decide
    · exact le_of_mem_renderItems items h
    · decide
  | .object members, c, h => by
    rw [render, List.cons_append, List.mem_cons, List.mem_append, List.mem_singleton] at h
    rcases h with rfl | h | rfl
    · decide
    · exact le_of_mem_renderMembers members h
    · decide

theorem le_of_mem_renderItems : ∀ (items : List Json) {c : Char},
    c ∈ renderItems items → ' ' ≤ c
  | [], c, h => by simp [renderItems] at h
  | [item], c, h => le_of_mem_render item h
  | item :: next :: items, c, h => by
    rw [renderItems, List.mem_append, List.mem_cons] at h
    · rcases h with h | rfl | h
      · exact le_of_mem_render item h
      · decide
      · exact le_of_mem_renderItems (next :: items) h
    · exact nofun

theorem le_of_mem_renderMembers : ∀ (members : List (Option String × Json)) {c : Char},
    c ∈ renderMembers members → ' ' ≤ c
  | [], c, h => by simp [renderMembers] at h
  | [(name, v)], c, h => by
    rw [renderMembers, List.mem_append, List.mem_cons] at h
    rcases h with h | rfl | h
    · exact le_of_mem_renderString h
    · decide
    · exact le_of_mem_render v h
  | (name, v) :: next :: members, c, h => by
    rw [renderMembers] at h
    · rw [List.append_assoc, List.mem_append, List.cons_append, List.mem_cons, List.mem_append,
        List.mem_cons] at h
      rcases h with h | rfl | h | rfl | h
      · exact le_of_mem_renderString h
      · decide
      · exact le_of_mem_render v h
      · decide
      · exact le_of_mem_renderMembers (next :: members) h
    · exact nofun

end

/-- The text of a value begins with a visible character, and not as a comment does. -/
theorem exists_render_eq_cons (v : Json) : ∃ c cs, v.render = c :: cs ∧ IsInk c := by
  cases v with
  | null => exact ⟨_, _, rfl, by decide⟩
  | bool b => cases b <;> exact ⟨_, _, rfl, by decide⟩
  | number n =>
    obtain ⟨c, cs, hcs, -⟩ := n.exists_render_eq_cons
    exact ⟨c, cs, hcs, Number.isInk_of_mem_render (hcs ▸ List.mem_cons_self)⟩
  | string s => cases s <;> exact ⟨_, _, rfl, by decide⟩
  | array items => exact ⟨_, _, rfl, by decide⟩
  | object members => exact ⟨_, _, rfl, by decide⟩

/-- The text of a value ends with a visible character. -/
theorem exists_render_eq_concat (v : Json) : ∃ cs c, v.render = cs ++ [c] ∧ IsInk c := by
  cases v with
  | null => exact ⟨['n', 'u', 'l'], _, rfl, by decide⟩
  | bool b =>
    cases b with
    | false => exact ⟨['f', 'a', 'l', 's'], _, rfl, by decide⟩
    | true => exact ⟨['t', 'r', 'u'], _, rfl, by decide⟩
  | number n =>
    obtain ⟨c, cs, hcs, -⟩ := n.exists_render_eq_cons
    have hne : n.render ≠ [] := by rw [hcs]; exact List.cons_ne_nil c cs
    exact ⟨n.render.dropLast, n.render.getLast hne, (List.dropLast_append_getLast hne).symm,
      Number.isInk_of_mem_render (List.getLast_mem hne)⟩
  | string s =>
    cases s with
    | none => exact ⟨['"', '\\', 'u', 'd', '8', '0', '0'], _, rfl, by decide⟩
    | some s => exact ⟨'"' :: s.toList.flatMap escape, _, rfl, by decide⟩
  | array items => exact ⟨'[' :: renderItems items, _, rfl, by decide⟩
  | object members => exact ⟨'{' :: renderMembers members, _, rfl, by decide⟩

end WifiDirect.Json
