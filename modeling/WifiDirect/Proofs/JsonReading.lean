import WifiDirect.Proofs.CompositeLaws
import Mathlib.Data.List.Perm.Basic

/-!
# Reading JSON gives back what was written

A layout reads back (`Layout.ReadsBack`) if the JSON of a value is read as this value. That has to
hold in any order of the members of objects, since some writers put them in the order of their keys;
so it is said of a change `f` of JSON that reorders members (`Json.Reorders`), of which leaving all
as it is and sorting the keys are two.

Single values read back, and optional values, lists, records and choices do if their parts do; the
lemmas for parts are tagged for `simp`, which puts the fields of a record together. Only a table has
members that are not named in its layout; it is the table of its entries in any order
(`Text.Table.ofList_of_perm`).
-/

namespace WifiDirect

variable {α β : Type} {f : Json → Json}

/-! ### Reordering members -/

namespace Json

/-- A change that puts the members of objects into another order and leaves all else. -/
class Reorders (f : Json → Json) : Prop where
  null : f .null = .null
  bool : ∀ b, f (.bool b) = .bool b
  number : ∀ n, f (.number n) = .number n
  string : ∀ s, f (.string s) = .string s
  array : ∀ items, f (.array items) = .array (items.map f)
  object : ∀ members, ∃ members', f (.object members) = .object members' ∧
    members'.Perm (members.map fun m => (m.1, f m.2))

instance : Reorders id where
  null := rfl
  bool _ := rfl
  number _ := rfl
  string _ := rfl
  array items := by rw [List.map_id]; rfl
  object members := ⟨members, rfl, by simp⟩

theorem sortKeysItems_eq_map (items : List Json) : sortKeysItems items = items.map sortKeys := by
  induction items with
  | nil => rw [sortKeysItems, List.map_nil]
  | cons item items ih => rw [sortKeysItems, ih, List.map_cons]

theorem sortKeysMembers_eq_map (members : List (Option String × Json)) :
    sortKeysMembers members = members.map fun m => (m.1, sortKeys m.2) := by
  induction members with
  | nil => rw [sortKeysMembers, List.map_nil]
  | cons member members ih => rw [sortKeysMembers, ih, List.map_cons]

instance : Reorders sortKeys where
  null := by rw [sortKeys] <;> exact nofun
  bool _ := by rw [sortKeys] <;> exact nofun
  number _ := by rw [sortKeys] <;> exact nofun
  string _ := by rw [sortKeys] <;> exact nofun
  array items := by rw [sortKeys, sortKeysItems_eq_map]
  object members := by
    refine ⟨_, by rw [sortKeys], ?_⟩
    rw [← sortKeysMembers_eq_map]
    exact List.mergeSort_perm _ _

variable {names : List String} {arity : Arity}

/-- A member whose key is not repeated is found at its key. -/
theorem lookup_of_length_filter_le {κ : Type} [BEq κ] [LawfulBEq κ] {entries : List (κ × α)}
    {key : κ} {a : α} (hle : (entries.filter fun e => e.1 == key).length ≤ 1)
    (h : (key, a) ∈ entries) : entries.lookup key = some a := by
  induction entries with
  | nil => simp at h
  | cons e entries ih =>
    obtain ⟨k, b⟩ := e
    by_cases heq : key = k
    · subst heq
      rw [List.filter_cons, if_pos (beq_self_eq_true key), List.length_cons] at hle
      have hnil : (entries.filter fun e => e.1 == key) = [] :=
        List.eq_nil_of_length_eq_zero (by omega)
      have hlast : (key, a) ∉ entries := by
        intro hmem
        have hfilter := List.filter_eq_nil_iff.1 hnil _ hmem
        simp at hfilter
      have hfirst := (List.mem_cons.1 h).resolve_right hlast
      rw [List.lookup_cons_self, (Prod.mk.inj hfirst).2]
    · have hne : ¬ (k == key) = true := by simpa using fun h => heq h.symm
      have htail : (key, a) ∈ entries := by
        refine (List.mem_cons.1 h).resolve_left fun hfirst => heq (Prod.mk.inj hfirst).1
      rw [List.filter_cons, if_neg hne] at hle
      rw [List.lookup_cons, beq_false_of_ne heq]
      exact ih hle htail

/-- An object without repeated keys is read by its keys, in any order. -/
theorem exists_fields?_eq {members : List (String × Json)}
    (hnodup : (members.map Prod.fst).Nodup) {members' : List (Option String × Json)}
    (h : members'.Perm (members.map fun m => (some m.1, m.2))) :
    ∃ written, (object members').fields? names arity = some written ∧
      ∀ m ∈ members, written m.1 = some m.2 := by
  have hkeys : (members'.map Prod.fst).Nodup := by
    rw [(h.map Prod.fst).nodup_iff, List.map_map]
    have hsome := hnodup.map (Option.some_injective String)
    rwa [List.map_map] at hsome
  have htext : members'.all (fun m => m.1.isSome) = true := by
    rw [List.all_eq_true]
    intro m hm
    obtain ⟨m, -, rfl⟩ := List.mem_map.1 (h.subset hm)
    rfl
  have hle : ∀ name, (members'.filter fun m => m.1 == some name).length ≤ 1 := by
    intro name
    have hcount : (members'.map Prod.fst).count (some name) ≤ 1 :=
      List.nodup_iff_count_le_one.1 hkeys (some name)
    rw [List.count, List.countP_map, List.countP_eq_length_filter] at hcount
    exact hcount
  have honce : names.all (fun name =>
      (members'.filter fun m => m.1 == some name).length ≤ 1) = true := by
    rw [List.all_eq_true]
    exact fun name _ => decide_eq_true (hle name)
  refine ⟨fun name => members'.lookup (some name), ?_, fun m hm => ?_⟩
  · rw [fields?, if_pos ⟨htext, honce⟩]
  · exact lookup_of_length_filter_le (hle m.1) (h.symm.subset (List.mem_map.2 ⟨m, hm, rfl⟩))

end Json

/-! ### The law -/

/-- **What is written as JSON is read back**, after the members of objects were reordered. -/
def Layout.ReadsBack (f : Json → Json) (l : Layout α) : Prop :=
  ∀ a, l.ofJson? (f (l.toJson a)) = some a

@[simp] theorem Layout.readsBack_withDefault {l : Layout α} (h : l.ReadsBack f) (a : α) :
    (l.withDefault a).ReadsBack f :=
  h

/-! ### Numbers, truth values and texts -/

section Values

variable [Json.Reorders f]

theorem Json.Reorders.int?_int (i : Int) : (f (.int i)).int? = some i := by
  rw [Json.int, Json.Reorders.number (f := f)]
  exact Json.int?_int i

theorem Json.Reorders.text?_text (s : String) : (f (.text s)).text? = some s := by
  rw [Json.text, Json.Reorders.string (f := f)]
  rfl

namespace Layout

theorem readsBack_word {k : Nat} {toNat : α → Nat} {ofNat : Nat → α}
    (hlt : ∀ a, toNat a < 256 ^ k) (hof : ∀ a, ofNat (toNat a) = a) :
    (word k toNat ofNat).ReadsBack f := by
  intro a
  have hbound : toNat a < 1 <<< (8 * k) := by
    rw [Nat.one_shiftLeft, Nat.pow_mul]
    exact hlt a
  show ((f (.int (toNat a))).int? >>= fun i => _) = _
  rw [Json.Reorders.int?_int]
  show (if 0 ≤ (toNat a : Int) ∧ (toNat a : Int).toNat < 1 <<< (8 * k) then _ else _) = _
  rw [Int.toNat_natCast, if_pos ⟨Int.natCast_nonneg _, hbound⟩, hof]

@[simp] theorem readsBack_u8 : u8.ReadsBack f :=
  readsBack_word UInt8.toNat_lt fun _ => UInt8.ofNat_toNat

@[simp] theorem readsBack_u16 : u16.ReadsBack f :=
  readsBack_word UInt16.toNat_lt fun _ => UInt16.ofNat_toNat

@[simp] theorem readsBack_u32 : u32.ReadsBack f :=
  readsBack_word UInt32.toNat_lt fun _ => UInt32.ofNat_toNat

@[simp] theorem readsBack_i32 : i32.ReadsBack f := by
  intro i
  show ((f (.int i.toInt)).int? >>= fun i => _) = _
  rw [Json.Reorders.int?_int]
  show (if Int32.minValue.toInt ≤ i.toInt ∧ i.toInt ≤ Int32.maxValue.toInt then _ else _) = _
  rw [if_pos ⟨Int32.minValue_le_toInt i, Int32.toInt_le i⟩, Int32.ofInt_toInt]

@[simp] theorem readsBack_bool : bool.ReadsBack f := by
  intro b
  show (f (.bool b)).bool? = some b
  rw [Json.Reorders.bool (f := f)]
  rfl

@[simp] theorem readsBack_text : text.ReadsBack f :=
  Json.Reorders.text?_text

@[simp] theorem readsBack_address : address.ReadsBack f := by
  intro a
  show ((f (.text a.text)).text? >>= Address.parse?) = some a
  rw [Json.Reorders.text?_text, Option.bind_eq_bind, Option.bind_some, Address.parse?_text]

@[simp] theorem readsBack_ipv4 : ipv4.ReadsBack f := by
  intro ip
  show ((f (.text ip.text)).text? >>= Ipv4.parse?) = some ip
  rw [Json.Reorders.text?_text, Option.bind_eq_bind, Option.bind_some, Ipv4.parse?_text]

/-! ### Optional values and lists -/

@[simp] theorem ofJson?_null_u8 : u8.ofJson? .null = none := by decide

@[simp] theorem ofJson?_null_u16 : u16.ofJson? .null = none := by decide

@[simp] theorem ofJson?_null_text : text.ofJson? .null = none := by decide

@[simp] theorem ofJson?_null_address : address.ofJson? .null = none := by decide

@[simp] theorem ofJson?_null_bytes : bytes.ofJson? .null = none := by decide

/-- Only a missing value is written as `null`, if no value of the layout is. -/
@[simp] theorem readsBack_optional {l : Layout α} (h : l.ReadsBack f) (hnull : l.ofJson? .null = none) :
    l.optional.ReadsBack f := by
  intro a?
  cases a? with
  | none =>
    show l.optional.ofJson? (f .null) = _
    rw [Json.Reorders.null (f := f)]
    rfl
  | some a =>
    have hread := h a
    show l.optional.ofJson? (f (l.toJson a)) = _
    cases hjson : f (l.toJson a) with
    | null =>
      rw [hjson, hnull] at hread
      cases hread
    | _ =>
      rw [hjson] at hread
      simp only [optional, hread, Option.map_some]

@[simp] theorem readsBack_list {l : Layout α} (h : l.ReadsBack f) : l.list.ReadsBack f := by
  intro as
  have hitems : ((as.map l.toJson).map f).mapM l.ofJson? = some as := by
    induction as with
    | nil => rfl
    | cons a as ih =>
      rw [List.map_cons, List.map_cons, List.mapM_cons, h a, ih]
      rfl
  show ((f (.array (as.map l.toJson))).items? >>= fun items => items.mapM l.ofJson?) = _
  rw [Json.Reorders.array (f := f)]
  exact hitems

@[simp] theorem readsBack_bytes : bytes.ReadsBack f :=
  readsBack_list (readsBack_u8)

end Layout

/-! ### Tables -/

namespace Text.Table

/-- An entry with a new key is put among the others. -/
theorem perm_insertEntry {key value : String} {entries : List (String × String)}
    (h : key ∉ entries.map Prod.fst) :
    (insertEntry key value entries).Perm ((key, value) :: entries) := by
  induction entries with
  | nil => exact List.Perm.refl _
  | cons e entries ih =>
    obtain ⟨k, v⟩ := e
    rw [List.map_cons, List.mem_cons, not_or] at h
    rw [insertEntry]
    split
    · exact List.Perm.refl _
    · rw [if_neg h.1]
      exact ((ih h.2).cons (k, v)).trans (List.Perm.swap _ _ _)

theorem perm_entries_foldl_insert (t : Table) {entries : List (String × String)}
    (h : ((t.entries ++ entries).map Prod.fst).Nodup) :
    (entries.foldl (fun t e => t.insert e.1 e.2) t).entries.Perm (t.entries ++ entries) := by
  induction entries generalizing t with
  | nil => rw [List.foldl_nil, List.append_nil]
  | cons e entries ih =>
    have hmiddle : (e :: (t.entries ++ entries)).Perm (t.entries ++ e :: entries) :=
      List.perm_middle.symm
    have hnodup : ((e :: (t.entries ++ entries)).map Prod.fst).Nodup :=
      (hmiddle.map Prod.fst).nodup_iff.2 h
    have hnew : e.1 ∉ t.entries.map Prod.fst := by
      rw [List.map_cons, List.nodup_cons, List.map_append, List.mem_append, not_or] at hnodup
      exact hnodup.1.1
    have hinsert : ((t.insert e.1 e.2).entries ++ entries).Perm (e :: (t.entries ++ entries)) :=
      (perm_insertEntry hnew).append_right entries
    rw [List.foldl_cons]
    exact (ih _ ((hinsert.map Prod.fst).nodup_iff.2 hnodup)).trans (hinsert.trans hmiddle)

theorem nodup_keys (t : Table) : (t.entries.map Prod.fst).Nodup := by
  rw [List.Nodup, List.pairwise_map]
  refine t.sorted.imp fun {a b} hlt heq => ?_
  rw [heq] at hlt
  exact String.lt_irrefl _ hlt

/-- Tables with the same entries are equal. -/
theorem eq_of_perm {t t' : Table} (h : t.entries.Perm t'.entries) : t = t' := by
  have heq : t.entries = t'.entries :=
    h.eq_of_pairwise (fun a b _ _ hab hba => absurd hba (String.lt_asymm hab)) t.sorted t'.sorted
  cases t
  cases t'
  cases heq
  rfl

/-- **A table is the table of its entries in any order.** -/
theorem ofList_of_perm {t : Table} {entries : List (String × String)}
    (h : entries.Perm t.entries) : ofList entries = t :=
  eq_of_perm ((perm_entries_foldl_insert empty ((h.map Prod.fst).nodup_iff.2 t.nodup_keys)).trans h)

end Text.Table

namespace Layout

/-- The members of a table are read one by one. -/
theorem ofJson?_table {members : List (Option String × Json)} {entries : List (String × String)}
    (h : List.Forall₂ (fun m e => m = (some e.1, Json.text e.2)) members entries) :
    table.ofJson? (.object members) = some (Text.Table.ofList entries) := by
  have hkeys : members.mapM (fun m => m.1.map (·, m.2)) =
      some (entries.map fun e => (e.1, Json.text e.2)) := by
    induction h with
    | nil => rfl
    | cons heq _ ih =>
      rw [List.mapM_cons, heq, ih]
      rfl
  have htexts : (entries.map fun e => (e.1, Json.text e.2)).mapM (fun m => m.2.text?.map (m.1, ·)) =
      some entries := by
    clear h hkeys
    induction entries with
    | nil => rfl
    | cons e entries ih =>
      rw [List.map_cons, List.mapM_cons, ih]
      rfl
  show (members.mapM (fun m => m.1.map (·, m.2)) >>= fun members =>
    members.mapM (fun m => m.2.text?.map (m.1, ·)) >>= fun entries => _) = _
  rw [hkeys, Option.bind_eq_bind, Option.bind_some, htexts]
  rfl

@[simp] theorem readsBack_table : table.ReadsBack f := by
  intro t
  obtain ⟨members, hmembers, hperm⟩ := Json.Reorders.object (f := f)
    (t.entries.map fun e => (some e.1, Json.text e.2))
  have hwritten : List.Forall₂ (fun m e => m = (some e.1, Json.text e.2))
      ((t.entries.map fun e => (some e.1, Json.text e.2)).map fun m => (m.1, f m.2)) t.entries := by
    rw [List.map_map, List.forall₂_map_left_iff, List.forall₂_same]
    intro e _
    show (some e.1, f (.string (some e.2))) = _
    rw [Json.Reorders.string (f := f)]
    rfl
  obtain ⟨entries, hentries, hentriesPerm⟩ := List.perm_comp_forall₂ hperm hwritten
  have hjson : table.toJson t = .object (t.entries.map fun e => (some e.1, Json.text e.2)) := by
    show Json.ofMembers (t.entries.map fun e => (e.1, Json.text e.2)) = _
    rw [Json.ofMembers, List.map_map]
    rfl
  rw [hjson, hmembers, ofJson?_table hentries, Text.Table.ofList_of_perm hentriesPerm]

end Layout

end Values

/-! ### Records -/

/-- The fields of a record read back from whatever is written at their names. -/
structure Fields.ReadsBack (f : Json → Json) (fields : Fields β) : Prop where
  map_fst : ∀ b, (fields.toMembers b).map Prod.fst = fields.names
  ofMembers? : ∀ b written, (∀ m ∈ fields.toMembers b, written m.1 = some (f m.2)) →
    fields.ofMembers? written = some b

@[simp] theorem Fields.readsBack_nil : Fields.nil.ReadsBack f where
  map_fst _ := rfl
  ofMembers? _ _ _ := rfl

@[simp] theorem Fields.readsBack_cons {name : String} {l : Layout α} {rest : Fields β}
    (h : l.ReadsBack f) (hrest : rest.ReadsBack f) : (Fields.cons name l rest).ReadsBack f where
  map_fst b := by
    show name :: (rest.toMembers b.2).map Prod.fst = _
    rw [hrest.map_fst, names_cons]
  ofMembers? b written hwritten := by
    have hname : written name = some (f (l.toJson b.1)) :=
      hwritten (name, l.toJson b.1) List.mem_cons_self
    have htail : rest.ofMembers? written = some b.2 :=
      hrest.ofMembers? b.2 written fun m hm => hwritten m (List.mem_cons_of_mem _ hm)
    simp only [cons, hname, h b.1, htail, Option.bind_eq_bind, Option.bind_some, Option.pure_def]

/-- **A record reads back** if its fields do and no two of them have one name. -/
theorem Layout.readsBack_record [Json.Reorders f] {fields : Fields β} {arity : Arity}
    {parts : α → β} {build : β → α} (h : fields.ReadsBack f) (hnames : fields.names.Nodup)
    (hbuild : ∀ a, build (parts a) = a) :
    (record fields arity parts build).ReadsBack f := by
  intro a
  obtain ⟨members', hmembers', hperm⟩ := Json.Reorders.object (f := f)
    ((fields.toMembers (parts a)).map fun m => (some m.1, m.2))
  have hperm' : members'.Perm
      (((fields.toMembers (parts a)).map fun m => (m.1, f m.2)).map fun m => (some m.1, m.2)) := by
    rw [List.map_map] at hperm ⊢
    exact hperm
  have hnodup : (((fields.toMembers (parts a)).map fun m => (m.1, f m.2)).map Prod.fst).Nodup := by
    rw [List.map_map]
    exact (h.map_fst (parts a)).symm ▸ hnames
  obtain ⟨written, hwritten, hmem⟩ := Json.exists_fields?_eq hnodup hperm'
  have hparts : fields.ofMembers? written = some (parts a) :=
    h.ofMembers? (parts a) written fun m hm => hmem _ (List.mem_map_of_mem hm)
  show ((f (.object ((fields.toMembers (parts a)).map fun m => (some m.1, m.2)))).fields?
    fields.names arity >>= fun written => _) = _
  rw [hmembers', hwritten, Option.bind_eq_bind, Option.bind_some, hparts]
  show some (build (parts a)) = some a
  rw [hbuild]

/-! ### Choices -/

/-- A case reads back what it writes of its values. -/
def Case.ReadsBack (f : Json → Json) (case : Case α) : Prop :=
  ∀ a content?, case.toJson? a = some content? → case.ofJson? (content?.map f) = some a

namespace Case

theorem readsBack_bare {name : String} {a : α} {isCase : α → Bool}
    (hcase : ∀ v, isCase v = true → v = a) : (bare name a isCase).ReadsBack f := by
  intro v content? hwritten
  by_cases hv : isCase v = true
  · simp only [bare, if_pos hv, Option.some.injEq] at hwritten
    rw [← hwritten, hcase v hv]
    rfl
  · simp only [bare, if_neg hv, reduceCtorEq] at hwritten

theorem readsBack_carrying {name : String} {l : Layout β} {build : β → α} {content? : α → Option β}
    (h : l.ReadsBack f) (hcontent : ∀ a b, content? a = some b → build b = a) :
    (carrying name l build content?).ReadsBack f := by
  intro a json? hwritten
  obtain ⟨b, hb, rfl⟩ := Option.map_eq_some_iff.1 hwritten
  show (l.ofJson? (f (l.toJson b))).map build = some a
  rw [h b, Option.map_some, hcontent a b hb]

/-- The first case that writes a value writes it as this case. -/
theorem exists_toJson_eq {cases : List (Case α)} {a : α}
    (h : ∃ case ∈ cases, (case.toJson? a).isSome) :
    ∃ case ∈ cases, ∃ content?, case.toJson? a = some content? ∧
      toJson a cases = match (content? : Option Json) with
        | none => .text case.name
        | some content => .ofMembers [(case.name, content)] := by
  induction cases with
  | nil =>
    obtain ⟨case, hcase, -⟩ := h
    cases hcase
  | cons first cases ih =>
    cases hfirst : first.toJson? a with
    | some content? =>
      refine ⟨first, List.mem_cons_self, content?, hfirst, ?_⟩
      rw [toJson, hfirst]
      cases content? <;> rfl
    | none =>
      have hrest : ∃ case ∈ cases, (case.toJson? a).isSome := by
        obtain ⟨case, hcase, hsome⟩ := h
        rcases List.mem_cons.1 hcase with rfl | hcase
        · rw [hfirst] at hsome
          cases hsome
        · exact ⟨case, hcase, hsome⟩
      obtain ⟨case, hcase, content?, hcontent, hjson⟩ := ih hrest
      refine ⟨case, List.mem_cons_of_mem _ hcase, content?, hcontent, ?_⟩
      rw [toJson, hfirst]
      exact hjson

/-- A case is found by its name. -/
theorem ofNamed?_eq {cases : List (Case α)} (hnames : (cases.map Case.name).Nodup) {case : Case α}
    (h : case ∈ cases) (content? : Option Json) :
    ofNamed? case.name content? cases = case.ofJson? content? := by
  have hfind : cases.find? (fun c => c.name == case.name) = some case := by
    induction cases with
    | nil => cases h
    | cons first cases ih =>
      rw [List.map_cons, List.nodup_cons] at hnames
      rcases List.mem_cons.1 h with rfl | htail
      · exact List.find?_cons_of_pos (beq_self_eq_true _)
      · have hne : first.name ≠ case.name := by
          intro heq
          exact hnames.1 (heq ▸ List.mem_map_of_mem htail)
        rw [List.find?_cons_of_neg (by simpa using hne), ih hnames.2 htail]
  rw [ofNamed?, hfind]
  rfl

end Case

namespace Layout

/-- **A choice reads back** if its cases do, no two of them have one name, and every value has a
case. -/
theorem readsBack_choice [Json.Reorders f] {cases : List (Case α)}
    (h : cases.Forall (Case.ReadsBack f)) (hnames : (cases.map Case.name).Nodup)
    (hall : ∀ a, cases.any (fun case => (case.toJson? a).isSome) = true) :
    (choice cases).ReadsBack f := by
  intro a
  obtain ⟨case, hcase, content?, hcontent, hjson⟩ :=
    Case.exists_toJson_eq (List.any_eq_true.1 (hall a))
  have hread := List.forall_iff_forall_mem.1 h case hcase a content? hcontent
  show (choice cases).ofJson? (f (Case.toJson a cases)) = _
  rw [hjson]
  cases content? with
  | none =>
    show (choice cases).ofJson? (f (.string (some case.name))) = _
    rw [Json.Reorders.string (f := f)]
    exact (Case.ofNamed?_eq hnames hcase none).trans hread
  | some content =>
    obtain ⟨members', hmembers', hperm⟩ := Json.Reorders.object (f := f) [(some case.name, content)]
    rw [List.map_singleton, List.perm_singleton] at hperm
    show (choice cases).ofJson? (f (.object [(some case.name, content)])) = _
    rw [hmembers', hperm]
    exact (Case.ofNamed?_eq hnames hcase (some (f content))).trans hread

/-- Named values read back if all are named, each by a name of its own. -/
theorem readsBack_enumeration [Json.Reorders f] [BEq α] [LawfulBEq α] {values : List α}
    {name : α → String} (hnames : (values.map name).Nodup) (hall : ∀ a, a ∈ values) :
    (enumeration values name).ReadsBack f := by
  refine readsBack_choice ?_ ?_ fun a => ?_
  · rw [List.forall_iff_forall_mem]
    intro case hcase
    obtain ⟨v, -, rfl⟩ := List.mem_map.1 hcase
    exact Case.readsBack_bare fun _ => eq_of_beq
  · rw [List.map_map]
    exact hnames
  · rw [List.any_map, List.any_eq_true]
    exact ⟨a, hall a, by simp [Case.bare]⟩

end Layout

end WifiDirect
