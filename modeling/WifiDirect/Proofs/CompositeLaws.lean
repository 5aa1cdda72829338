import WifiDirect.Proofs.LayoutLaws
import Mathlib.Data.List.Nodup

/-!
# Writing and reading composite values

Tables, records and choices agree with themselves if their parts do (`Layout.coherent_table`,
`Layout.coherent_record`, `Layout.coherent_choice`).

A table is the one layout whose written form may lose bytes: entries that are read in any order, and
keys that are read twice, are written in the order of the keys and once.
-/

namespace WifiDirect

variable {α β : Type} {R : Bytes → Bytes → Prop}

/-! ### Tables -/

namespace Text.Table

/-- A key behind all others goes to the end. -/
theorem insertEntry_eq_append {key value : String} {entries : List (String × String)}
    (h : ∀ e ∈ entries, e.1 < key) : insertEntry key value entries = entries ++ [(key, value)] := by
  induction entries with
  | nil => rfl
  | cons e entries ih =>
    have hlt : e.1 < key := h e List.mem_cons_self
    have hle : ¬ key < e.1 := String.lt_asymm hlt
    have hne : key ≠ e.1 := fun heq => String.lt_irrefl key (heq ▸ hlt)
    rw [insertEntry, if_neg hle, if_neg hne, ih fun e' he' => h e' (List.mem_cons_of_mem _ he'),
      List.cons_append]

/-- Entries in the order of their keys are put one behind the other. -/
theorem entries_foldl_insert (t : Table) {entries : List (String × String)}
    (h : (t.entries ++ entries).Pairwise fun a b => a.1 < b.1) :
    (entries.foldl (fun t e => t.insert e.1 e.2) t).entries = t.entries ++ entries := by
  induction entries generalizing t with
  | nil => rw [List.foldl_nil, List.append_nil]
  | cons e entries ih =>
    have hbefore : ∀ e' ∈ t.entries, e'.1 < e.1 := fun e' he' =>
      (List.pairwise_append.1 h).2.2 e' he' e List.mem_cons_self
    have hinsert : (t.insert e.1 e.2).entries = t.entries ++ [e] := insertEntry_eq_append hbefore
    rw [List.foldl_cons, ih, hinsert, List.append_assoc, List.singleton_append]
    rw [hinsert, List.append_assoc, List.singleton_append]
    exact h

/-- A table is the table of its entries. -/
theorem ofList_entries (t : Table) : ofList t.entries = t := by
  have h : (ofList t.entries).entries = t.entries := entries_foldl_insert empty t.sorted
  cases hof : ofList t.entries
  rw [hof] at h
  cases t
  cases h
  rfl

section Weight
variable (weight : String × String → Nat)

/-- An entry that is put into its place adds at most its own weight. -/
theorem sum_map_insertEntry_le (key value : String) (entries : List (String × String)) :
    ((insertEntry key value entries).map weight).sum ≤
      (entries.map weight).sum + weight (key, value) := by
  induction entries with
  | nil => simp [insertEntry]
  | cons e entries ih =>
    obtain ⟨k, v⟩ := e
    rw [insertEntry]
    split
    · rw [List.map_cons, List.sum_cons]
      omega
    · split
      · rw [List.map_cons, List.map_cons, List.sum_cons, List.sum_cons]
        omega
      · rw [List.map_cons, List.map_cons, List.sum_cons, List.sum_cons]
        omega

theorem sum_map_foldl_insert_le (t : Table) (entries : List (String × String)) :
    ((entries.foldl (fun t e => t.insert e.1 e.2) t).entries.map weight).sum ≤
      (t.entries.map weight).sum + (entries.map weight).sum := by
  induction entries generalizing t with
  | nil => exact Nat.le_add_right _ _
  | cons e entries ih =>
    have hinsert : ((t.insert e.1 e.2).entries.map weight).sum ≤
        (t.entries.map weight).sum + weight e :=
      sum_map_insertEntry_le weight e.1 e.2 t.entries
    have hrest := ih (t.insert e.1 e.2)
    rw [List.foldl_cons, List.map_cons, List.sum_cons]
    omega

/-- **The table of a list weighs no more than the list.** -/
theorem sum_map_ofList_le (entries : List (String × String)) :
    ((ofList entries).entries.map weight).sum ≤ (entries.map weight).sum := by
  have h := sum_map_foldl_insert_le weight empty entries
  rwa [show empty.entries = [] from rfl, List.map_nil, List.sum_nil, Nat.zero_add] at h

end Weight

end Text.Table

namespace Layout

/-- The table of a list is not longer than the list. -/
theorem length_flatMap_ofList (entries : List (String × String)) :
    ((Text.Table.ofList entries).entries.flatMap encodeEntry).length ≤
      (entries.flatMap encodeEntry).length := by
  rw [List.length_flatMap, List.length_flatMap]
  exact Text.Table.sum_map_ofList_le _ entries

theorem coherent_entry [Piecewise R] : WifiDirect.Coherent R encodeEntry decodeEntry :=
  coherent_text.pair coherent_text

theorem encodeEntry_pos (e : String × String) : 0 < (encodeEntry e).length := by
  rw [encodeEntry, List.length_append, length_encodeText]
  omega

/-- A table is read from entries in any order, and never written longer. -/
theorem coherent_table : table.Coherent NoLonger := by
  have hmany := coherent_many (R := NoLonger) coherent_entry encodeEntry_pos
  have htable := hmany.map Text.Table.ofList_entries fun used entries hle => by
    have h := length_flatMap_ofList entries
    unfold NoLonger at hle ⊢
    rw [List.length_append, Bytes.length_littleEndian] at hle ⊢
    omega
  simp only [bind_assoc] at htable
  exact htable

end Layout

/-! ### Records -/

theorem Fields.coherent_nil [Piecewise R] : Fields.nil.Coherent R where
  decode_encode _ _ _ := rfl
  of_decode bs b rest hd := by
    cases hd
    exact ⟨[], rfl, Piecewise.refl _⟩

theorem Fields.coherent_cons [Piecewise R] {name : String} {l : Layout α} {rest : Fields β}
    (h : l.Coherent R) (hrest : rest.Coherent R) : (Fields.cons name l rest).Coherent R :=
  Coherent.pair h hrest

/-- Writing and reading a record agree if they do for its fields. -/
theorem Layout.coherent_record {fields : Fields β} {arity : Arity} {parts : α → β} {build : β → α}
    (h : fields.Coherent R) (hbuild : ∀ a, build (parts a) = a)
    (hparts : ∀ b, parts (build b) = b) :
    (record fields arity parts build).Coherent R :=
  Coherent.map h hbuild fun used b hR => by rw [hparts]; exact hR

/-! ### Choices -/

/-- A case writes the values with the number `n`, and reads no others. -/
structure Case.Coherent (R : Bytes → Bytes → Prop) (number : α → Nat) (n : Nat) (case : Case α) :
    Prop where
  isSome_iff : ∀ a, (case.encode? a).isSome ↔ number a = n
  decode_encode : ∀ a content rest, case.encode? a = some content → content.length < 256 ^ 8 →
    case.decode (content ++ rest) = .ok (a, rest)
  of_decode : ∀ bs a rest, case.decode bs = .ok (a, rest) →
    ∃ used content, bs = used ++ rest ∧ case.encode? a = some content ∧ R used content

namespace Case

variable {number : α → Nat} {n : Nat}

theorem coherent_bare [Piecewise R] {name : String} {a : α} {isCase : α → Bool}
    (hcase : ∀ v, if isCase v then v = a ∧ number v = n else number v ≠ n)
    (ha : isCase a = true) : (bare name a isCase).Coherent R number n where
  isSome_iff v := by
    have h := hcase v
    by_cases hv : isCase v = true
    · rw [if_pos hv] at h
      simp [bare, hv, h.2]
    · rw [if_neg hv] at h
      simp [bare, hv, h]
  decode_encode v content rest hcontent _ := by
    have h := hcase v
    by_cases hv : isCase v = true
    · rw [if_pos hv] at h
      simp only [bare, if_pos hv, Option.some.injEq] at hcontent
      rw [← hcontent, h.1]
      rfl
    · simp [bare, hv] at hcontent
  of_decode bs v rest hd := by
    cases hd
    exact ⟨[], [], rfl, if_pos ha, Piecewise.refl _⟩

/-- What a case carries agrees, and the case takes it for itself. -/
theorem coherent_carrying {name : String} {l : Layout β} {build : β → α} {content? : α → Option β}
    (h : l.Coherent R) (hbuild : ∀ b, content? (build b) = some b)
    (hcontent : ∀ a, match content? a with
      | some b => a = build b ∧ number a = n
      | none => number a ≠ n) : (carrying name l build content?).Coherent R number n where
  isSome_iff a := by
    have ha := hcontent a
    show ((content? a).map l.encode).isSome ↔ _
    split at ha
    · rename_i b hb
      rw [hb, ha.2]
      simp
    · rename_i hb
      rw [hb]
      simp [ha]
  decode_encode a content rest hwritten hlen := by
    have ha := hcontent a
    obtain ⟨b, hb, rfl⟩ := Option.map_eq_some_iff.1 hwritten
    rw [hb] at ha
    show (l.decode (l.encode b ++ rest) >>= fun x => _) = _
    rw [h.decode_encode b rest hlen, ha.1]
    rfl
  of_decode bs a rest hd := by
    obtain ⟨⟨b, rest'⟩, hb, hd⟩ := bind_eq_ok_iff.1 hd
    cases hd
    obtain ⟨used, hbs, hR⟩ := h.of_decode bs b _ hb
    exact ⟨used, l.encode b, hbs, by show Option.map _ (content? _) = _; rw [hbuild]; rfl, hR⟩

/-- All cases agree, the first of them being case `n`. -/
def CoherentFrom (R : Bytes → Bytes → Prop) (number : α → Nat) : Nat → List (Case α) → Prop
  | _, [] => True
  | n, case :: cases => case.Coherent R number n ∧ CoherentFrom R number (n + 1) cases

theorem CoherentFrom.getElem? {cases : List (Case α)} (h : CoherentFrom R number n cases) {i : Nat}
    {case : Case α} (hi : cases[i]? = some case) : case.Coherent R number (n + i) := by
  induction cases generalizing n i with
  | nil => simp at hi
  | cons first cases ih =>
    cases i with
    | zero =>
      rw [List.getElem?_cons_zero, Option.some.injEq] at hi
      exact hi ▸ h.1
    | succ i =>
      rw [List.getElem?_cons_succ] at hi
      rw [show n + (i + 1) = n + 1 + i by omega]
      exact ih h.2 hi

/-- The case with the value's number writes it. -/
theorem encodeFrom_eq {cases : List (Case α)} (h : CoherentFrom R number n cases) {i : Nat}
    {case : Case α} (hi : cases[i]? = some case) {a : α} {content : Bytes}
    (hcontent : case.encode? a = some content) :
    encodeFrom n a cases = Bytes.littleEndian 4 (n + i) ++ content := by
  induction cases generalizing n i with
  | nil => simp at hi
  | cons first cases ih =>
    cases i with
    | zero =>
      rw [List.getElem?_cons_zero, Option.some.injEq] at hi
      rw [encodeFrom, hi, hcontent]
      rfl
    | succ i =>
      have hnumber : number a = n + (i + 1) :=
        ((h.getElem? hi).isSome_iff a).1 (by rw [hcontent]; rfl)
      have hfirst : first.encode? a = none := by
        rw [← Option.not_isSome_iff_eq_none, h.1.isSome_iff]
        omega
      rw [List.getElem?_cons_succ] at hi
      rw [encodeFrom, hfirst, show n + (i + 1) = n + 1 + i by omega]
      exact ih h.2 hi

end Case

namespace Layout

variable {number : α → Nat} {cases : List (Case α)}

/-- **Writing and reading a choice agree** if they do for its cases, and every value has one. -/
theorem coherent_choice [Piecewise R] (number : α → Nat) (hlength : cases.length ≤ 256 ^ 4)
    (hnumber : ∀ a, number a < cases.length) (h : Case.CoherentFrom R number 0 cases) :
    (choice cases).Coherent R where
  decode_encode a rest hlen := by
    have hcase := List.getElem?_eq_getElem (hnumber a)
    have hcoherent := h.getElem? hcase
    obtain ⟨content, hcontent⟩ :=
      Option.isSome_iff_exists.1 ((hcoherent.isSome_iff a).2 (Nat.zero_add _).symm)
    have hwritten : (choice cases).encode a = Bytes.littleEndian 4 (number a) ++ content := by
      rw [← Nat.zero_add (number a)]
      exact Case.encodeFrom_eq h hcase hcontent
    rw [hwritten, List.length_append] at hlen
    have hread := hcoherent.decode_encode a content rest hcontent (by omega)
    rw [hwritten, List.append_assoc]
    show (decodeWord 4 (Bytes.littleEndian 4 (number a) ++ (content ++ rest)) >>= fun x => _) = _
    simp only [decodeWord_append, Nat.mod_eq_of_lt ((hnumber a).trans_le hlength), bind_ok, hcase]
    exact hread
  of_decode bs a rest hd := by
    obtain ⟨⟨i, rest'⟩, hi, hcase⟩ := bind_eq_ok_iff.1 hd
    obtain ⟨hlt, rfl⟩ := decodeWord_eq_ok_iff.1 hi
    dsimp only at hcase
    split at hcase
    · rename_i case hi'
      obtain ⟨used, content, rfl, hcontent, hR⟩ := (h.getElem? hi').of_decode _ a rest hcase
      refine ⟨Bytes.littleEndian 4 i ++ used, by rw [List.append_assoc], ?_⟩
      show R _ (Case.encodeFrom 0 a cases)
      rw [Case.encodeFrom_eq h hi' hcontent, Nat.zero_add]
      exact Piecewise.append (Piecewise.refl _) hR
    · cases hcase

section Enumeration

variable [BEq α] [LawfulBEq α] {values : List α} {name : α → String}

theorem coherentFrom_bare [Piecewise R] {n : Nat}
    (hnumber : ∀ a i, number a = n + i ↔ values[i]? = some a) :
    Case.CoherentFrom R number n (values.map fun v => .bare (name v) v (· == v)) := by
  induction values generalizing n with
  | nil => trivial
  | cons v values ih =>
    have hv : ∀ a, number a = n ↔ v = a := fun a => by simpa using hnumber a 0
    refine ⟨Case.coherent_bare (fun a => ?_) (beq_self_eq_true v), ih fun a i => ?_⟩
    · by_cases h : a = v
      · rw [h, if_pos (beq_self_eq_true v)]
        exact ⟨rfl, (hv v).2 rfl⟩
      · rw [if_neg (by simpa using h)]
        exact fun hn => h ((hv a).1 hn).symm
    · rw [show n + 1 + i = n + (i + 1) by omega, hnumber a (i + 1), List.getElem?_cons_succ]

/-- Named values agree if each is named once. -/
theorem coherent_enumeration [Piecewise R] (hnodup : values.Nodup) (hall : ∀ a, a ∈ values)
    (hlength : values.length ≤ 256 ^ 4) : (enumeration values name).Coherent R := by
  refine coherent_choice values.idxOf (by rwa [List.length_map]) (fun a => ?_)
    (coherentFrom_bare fun a i => ?_)
  · rw [List.length_map]
    exact List.idxOf_lt_length_iff.2 (hall a)
  · rw [Nat.zero_add]
    constructor
    · rintro rfl
      exact List.getElem?_idxOf (hall a)
    · intro hi
      obtain ⟨hlt, rfl⟩ := List.getElem?_eq_some_iff.1 hi
      exact hnodup.idxOf_getElem i hlt

end Enumeration

end Layout

end WifiDirect
