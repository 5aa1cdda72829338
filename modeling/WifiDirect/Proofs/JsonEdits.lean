import WifiDirect.Proofs.JsonForms
import Mathlib.Data.List.Perm.Subperm

/-!
# Edited objects

An object may have been written or edited by other hands than ours: its members may stand in another
order and among members with other names, and some may be missing. A record is read from such an
object as from its own (`Layout.ofJson?_record_of_edited`), if what is missing says nothing; if it
says something, nothing is read (`Layout.ofJson?_record_of_lacking`).

Edits are made one after the other (`Json.Edited`). What each of them keeps (`Json.Keeps`) is what the
reading of an object relies on: a name that the object had from the start has at most one member, and
that is the member it had. How a layout takes this is said of its fields one by one
(`Fields.Tolerates`, `Fields.FailsAt`).
-/

namespace WifiDirect

open Layout

variable {α β : Type}

/-! ### Edits of an object -/

namespace Json

/-- The members of an object after any number of edits: members were put into another order, members
whose value is omissible were left out, and members with new names were put in. -/
inductive Edited (omissible : List Json) (original : List (String × Json)) :
    List (String × Json) → Prop
  | unedited : Edited omissible original original
  | reordered {members members' : List (String × Json)} (h : Edited omissible original members)
      (hperm : members.Perm members') : Edited omissible original members'
  | omitted {name : String} {value : Json} {members : List (String × Json)}
      (h : Edited omissible original ((name, value) :: members)) (hvalue : value ∈ omissible) :
      Edited omissible original members
  | inserted {name : String} {members : List (String × Json)}
      (h : Edited omissible original members) (hname : name ∉ original.map Prod.fst)
      (value : Json) : Edited omissible original ((name, value) :: members)

/-- The members whose names the object had from the start. -/
def known (original members : List (String × Json)) : List (String × Json) :=
  members.filter fun m => m.1 ∈ original.map Prod.fst

/-- What edits keep: nothing was changed or repeated, and only what is omissible was left out. -/
structure Keeps (omissible : List Json) (original members : List (String × Json)) : Prop where
  subperm : (known original members).Subperm original
  omissible : ∀ m ∈ original, m ∉ members → m.2 ∈ omissible

variable {omissible : List Json} {original members members' : List (String × Json)}

theorem known_self (original : List (String × Json)) : known original original = original := by
  rw [known, List.filter_eq_self]
  intro m hm
  exact decide_eq_true (List.mem_map_of_mem hm)

theorem Keeps.reordered (h : Keeps omissible original members) (hperm : members.Perm members') :
    Keeps omissible original members' where
  subperm := ((hperm.filter _).subperm_right).1 h.subperm
  omissible m hm hmissing := h.omissible m hm fun hmem => hmissing (hperm.subset hmem)

theorem Keeps.omitted {m : String × Json} (h : Keeps omissible original (m :: members))
    (hvalue : m.2 ∈ omissible) : Keeps omissible original members where
  subperm := (((List.sublist_cons_self m members).filter _).subperm).trans h.subperm
  omissible m' hm' hmissing := by
    by_cases heq : m' = m
    · rw [heq]
      exact hvalue
    · exact h.omissible m' hm' (List.not_mem_cons_of_ne_of_not_mem heq hmissing)

theorem Keeps.inserted {m : String × Json} (h : Keeps omissible original members)
    (hname : m.1 ∉ original.map Prod.fst) : Keeps omissible original (m :: members) where
  subperm := by
    have hskip : known original (m :: members) = known original members :=
      List.filter_cons_of_neg (by simpa using hname)
    rw [hskip]
    exact h.subperm
  omissible m' hm' hmissing :=
    h.omissible m' hm' fun hmem => hmissing (List.mem_cons_of_mem m hmem)

/-- **Any number of edits keeps what one keeps.** -/
theorem Edited.keeps (h : Edited omissible original members) :
    Keeps omissible original members := by
  induction h with
  | unedited =>
    refine ⟨?_, fun m hm hmissing => absurd hm hmissing⟩
    rw [known_self]
  | reordered _ hperm ih => exact ih.reordered hperm
  | omitted _ hvalue ih => exact ih.omitted hvalue
  | inserted _ hname _ ih => exact ih.inserted hname

theorem Edited.omitted_front {front : List (String × Json)}
    (h : Edited omissible original (front ++ members)) (hfront : ∀ m ∈ front, m.2 ∈ omissible) :
    Edited omissible original members := by
  induction front with
  | nil => exact h
  | cons m front ih =>
    rw [List.forall_mem_cons] at hfront
    exact ih (h.omitted hfront.1) hfront.2

/-! ### Reading an edited object -/

theorem mem_of_lookup_eq_some {κ : Type} [BEq κ] [LawfulBEq κ] {entries : List (κ × α)} {key : κ}
    {a : α} (h : entries.lookup key = some a) : (key, a) ∈ entries := by
  obtain ⟨before, after, rfl, -⟩ := List.lookup_eq_some_iff.1 h
  simp

theorem Keeps.length_filter_le (h : Keeps omissible original members)
    (hnodup : (original.map Prod.fst).Nodup) {name : String} (hname : name ∈ original.map Prod.fst) :
    (members.filter fun m => m.1 == name).length ≤ 1 := by
  have hsame : members.countP (fun m => m.1 == name) =
      (known original members).countP fun m => m.1 == name := by
    rw [known, List.countP_filter]
    refine List.countP_congr fun m _ => ?_
    by_cases heq : m.1 = name
    · simp [heq, List.mem_map.1 hname]
    · simp [heq]
  have hcount : (original.map Prod.fst).count name ≤ 1 := List.nodup_iff_count_le_one.1 hnodup name
  rw [List.count, List.countP_map] at hcount
  rw [← List.countP_eq_length_filter, hsame]
  exact (h.subperm.countP_le _).trans hcount

/-- A member that is left has its value, and one that is missing has none. -/
theorem Keeps.lookup_eq (h : Keeps omissible original members)
    (hnodup : (original.map Prod.fst).Nodup) {m : String × Json} (hm : m ∈ original) :
    List.lookup m.1 members = some m.2 ∨ List.lookup m.1 members = none ∧ m.2 ∈ omissible := by
  have hname : m.1 ∈ original.map Prod.fst := List.mem_map_of_mem hm
  by_cases hmem : m ∈ members
  · exact Or.inl (lookup_of_length_filter_le (h.length_filter_le hnodup hname) hmem)
  · refine Or.inr ⟨?_, h.omissible m hm hmem⟩
    cases hlookup : List.lookup m.1 members with
    | none => rfl
    | some value =>
      have hother : (m.1, value) ∈ members := mem_of_lookup_eq_some hlookup
      have horiginal : (m.1, value) ∈ original :=
        h.subperm.subset (List.mem_filter.2 ⟨hother, decide_eq_true hname⟩)
      have hsame : (m.1, value) = m := List.inj_on_of_nodup_map hnodup horiginal hm rfl
      rw [hsame] at hother
      exact absurd hother hmem

theorem lookup_map_some (members : List (String × Json)) (name : String) :
    (members.map fun (name, value) => (some name, value)).lookup (some name) =
      members.lookup name := by
  induction members with
  | nil => rfl
  | cons m members ih =>
    obtain ⟨key, value⟩ := m
    rw [List.map_cons, List.lookup_cons, List.lookup_cons, ih]
    rfl

/-- An object is read by its names, if none of those in question is repeated. -/
theorem fields?_ofMembers {names : List String} {arity : Arity}
    (h : ∀ name ∈ names, (members.filter fun m => m.1 == name).length ≤ 1) :
    (ofMembers members).fields? names arity = some fun name => members.lookup name := by
  have htext : (members.map fun (name, value) => (some name, value)).all
      (fun m => m.1.isSome) = true := by
    simp
  have honce : names.all (fun name =>
      ((members.map fun (name, value) => (some name, value)).filter
        fun m => m.1 == some name).length ≤ 1) = true := by
    rw [List.all_eq_true]
    intro name hname
    rw [List.filter_map, List.length_map]
    exact decide_eq_true (h name hname)
  rw [ofMembers, fields?, if_pos ⟨htext, honce⟩]
  exact congrArg some (funext (lookup_map_some members))

/-- What an object that is read has at a name in question. -/
theorem written_eq_some {names : List String} {arity : Arity}
    {members : List (Option String × Json)} {written : String → Option Json}
    (h : (object members).fields? names arity = some written) {name : String}
    (hname : name ∈ names) {value : Json} (hmem : (some name, value) ∈ members) :
    written name = some value := by
  rw [fields?] at h
  split at h
  case isFalse => cases h
  case isTrue hcond =>
    cases h
    have honce := of_decide_eq_true (List.all_eq_true.1 hcond.2 name hname)
    exact lookup_of_length_filter_le honce hmem

/-- What an object that is read lacks. -/
theorem written_eq_none {names : List String} {arity : Arity}
    {members : List (Option String × Json)} {written : String → Option Json}
    (h : (object members).fields? names arity = some written) {name : String}
    (hmissing : ∀ m ∈ members, m.1 ≠ some name) : written name = none := by
  rw [fields?] at h
  split at h
  case isFalse => cases h
  case isTrue hcond =>
    cases h
    rw [List.lookup_eq_none_iff]
    intro m hm
    simpa using (hmissing m hm).symm

/-! ### Edits within edits -/

/-- What stands for nothing where a value may be missing. -/
def missing : List Json := [.null]

/-- What stands for nothing where a value that is not given is zero or false. -/
def defaults : List Json := [.null, .int 0, .bool false]

@[simp] theorem missing_subset_defaults : missing ⊆ defaults := by
  simp [missing, defaults]

/-- The value after edits of the object that it is, if it is one. -/
def Respelled (value value' : Json) : Prop :=
  value' = value ∨ ∃ members members',
    value = ofMembers members ∧ value' = ofMembers members' ∧ Edited missing members members'

/-- The members with the same names and with values after edits. -/
def RespelledMembers : List (String × Json) → List (String × Json) → Prop :=
  List.Forall₂ fun m m' => m'.1 = m.1 ∧ m.2.Respelled m'.2

/-- The members of an object after edits, those of the objects that stand at its names included. -/
def EditedWithin (omissible : List Json) (members edited : List (String × Json)) : Prop :=
  ∃ respelled, RespelledMembers members respelled ∧ Edited omissible respelled edited

theorem RespelledMembers.map_fst (h : RespelledMembers members members') :
    members'.map Prod.fst = members.map Prod.fst := by
  induction h with
  | nil => rfl
  | cons hm _ ih => rw [List.map_cons, List.map_cons, hm.1, ih]

theorem RespelledMembers.exists_of_mem (h : RespelledMembers members members')
    {m : String × Json} (hm : m ∈ members) :
    ∃ value, (m.1, value) ∈ members' ∧ m.2.Respelled value := by
  induction h with
  | nil => simp at hm
  | @cons first first' _ _ hfirst _ ih =>
    rcases List.mem_cons.1 hm with rfl | hm
    · refine ⟨first'.2, ?_, hfirst.2⟩
      rw [← hfirst.1]
      exact List.mem_cons_self
    · obtain ⟨value, hmem, hvalue⟩ := ih hm
      exact ⟨value, List.mem_cons_of_mem _ hmem, hvalue⟩

theorem Edited.within (h : Edited omissible original members) :
    EditedWithin omissible original members :=
  ⟨original, List.forall₂_same.2 fun _ _ => ⟨rfl, Or.inl rfl⟩, h⟩

/-- What is left of an edited object at the names it had. -/
theorem EditedWithin.exists_fields?_eq {edited : List (String × Json)}
    (h : EditedWithin omissible members edited) (arity : Arity)
    (hnodup : (members.map Prod.fst).Nodup) :
    ∃ written, (ofMembers edited).fields? (members.map Prod.fst) arity = some written ∧
      ∀ m ∈ members, ∃ value, m.2.Respelled value ∧
        (written m.1 = some value ∨ written m.1 = none ∧ value ∈ omissible) := by
  obtain ⟨respelled, hrespelled, hedited⟩ := h
  rw [← hrespelled.map_fst] at hnodup ⊢
  refine ⟨_, fields?_ofMembers fun name => hedited.keeps.length_filter_le hnodup, fun m hm => ?_⟩
  obtain ⟨value, hmem, hvalue⟩ := hrespelled.exists_of_mem hm
  exact ⟨value, hvalue, hedited.keeps.lookup_eq hnodup hmem⟩

theorem ofMembers_injective : Function.Injective ofMembers := by
  intro members members' h
  have hinj : Function.Injective fun m : String × Json => (some m.1, m.2) := by
    intro m m' heq
    simpa [Prod.ext_iff] using heq
  exact hinj.list_map (object.inj h)

theorem Respelled.eq_of_flat {value value' : Json} (h : value.Respelled value')
    (hflat : ∀ members, value ≠ ofMembers members) : value' = value := by
  rcases h with h | ⟨members, -, heq, -, -⟩
  · exact h
  · exact absurd heq (hflat members)

end Json

/-! ### Layouts -/

/-- **Edits are tolerated**: a value is read whatever edits were made within it, and where it is
omissible it is the one that stands for a field left out. -/
structure Layout.Tolerates (omissible : List Json) (l : Layout α) : Prop where
  ofJson? : ∀ a v, (l.toJson a).Respelled v → l.ofJson? v = some a
  absent : ∀ a v, (l.toJson a).Respelled v → v ∈ omissible → l.absent = some a

/-- The fields of a record are read from what edits leave of them. -/
structure Fields.Tolerates (omissible : List Json) (fields : Fields β) : Prop where
  map_fst : ∀ b, (fields.toMembers b).map Prod.fst = fields.names
  ofMembers? : ∀ b written,
    (∀ m ∈ fields.toMembers b, ∃ value, m.2.Respelled value ∧
      (written m.1 = some value ∨ written m.1 = none ∧ value ∈ omissible)) →
    fields.ofMembers? written = some b

/-- The fields of a record are not read where `json?` is written at a name. -/
def Fields.FailsAt (name : String) (json? : Option Json) (fields : Fields β) : Prop :=
  ∀ written, written name = json? → fields.ofMembers? written = none

/-- The record is not read without any of these fields. -/
def Fields.Requires (names : List String) (fields : Fields β) : Prop :=
  ∀ name ∈ names, name ∈ fields.names ∧ fields.FailsAt name none

variable {omissible : List Json}

namespace Layout

theorem tolerates_of_readsBack {l : Layout α} (h : l.ReadsBack id)
    (hflat : ∀ a members, l.toJson a ≠ .ofMembers members)
    (habsent : ∀ a, l.toJson a ∈ omissible → l.absent = some a) : l.Tolerates omissible where
  ofJson? a v hv := by
    rw [hv.eq_of_flat (hflat a)]
    exact h a
  absent a v hv hmem := by
    rw [hv.eq_of_flat (hflat a)] at hmem
    exact habsent a hmem

/-- Where only `null` may be left out, a value that is never written so is not. -/
theorem tolerates_missing {l : Layout α} (h : l.ReadsBack id)
    (hflat : ∀ a members, l.toJson a ≠ .ofMembers members) (hnull : ∀ a, l.toJson a ≠ .null) :
    l.Tolerates Json.missing :=
  tolerates_of_readsBack h hflat fun a ha => absurd (List.mem_singleton.1 ha) (hnull a)

@[simp] theorem tolerates_u8 : u8.Tolerates Json.missing :=
  tolerates_missing readsBack_u8 nofun nofun

@[simp] theorem tolerates_u16 : u16.Tolerates Json.missing :=
  tolerates_missing readsBack_u16 nofun nofun

@[simp] theorem tolerates_u32 : u32.Tolerates Json.missing :=
  tolerates_missing readsBack_u32 nofun nofun

@[simp] theorem tolerates_i32 : i32.Tolerates Json.missing :=
  tolerates_missing readsBack_i32 nofun nofun

@[simp] theorem tolerates_bool : bool.Tolerates Json.missing :=
  tolerates_missing readsBack_bool nofun nofun

theorem Tolerates.mono {omissible' : List Json} {l : Layout α} (h : l.Tolerates omissible')
    (hsub : omissible ⊆ omissible') : l.Tolerates omissible where
  ofJson? := h.ofJson?
  absent a v hv hmem := h.absent a v hv (hsub hmem)

/-- Where zero and false may be left out, they have to be what stands for a value left out. -/
theorem tolerates_defaults {l : Layout α} (h : l.ReadsBack id)
    (hflat : ∀ a members, l.toJson a ≠ .ofMembers members) (hnull : ∀ a, l.toJson a ≠ .null)
    (hzero : ∀ a, l.toJson a = .int 0 → l.absent = some a)
    (hfalse : ∀ a, l.toJson a = .bool false → l.absent = some a) : l.Tolerates Json.defaults := by
  refine tolerates_of_readsBack h hflat fun a ha => ?_
  simp only [Json.defaults, List.mem_cons, List.not_mem_nil, or_false] at ha
  rcases ha with hn | hz | hf
  · exact absurd hn (hnull a)
  · exact hzero a hz
  · exact hfalse a hf

theorem eq_zero_of_int_eq {i : Int} (h : Json.int i = .int 0) : i = 0 := by
  have hint := congrArg Json.int? h
  rw [Json.int?_int, Json.int?_int] at hint
  exact Option.some.inj hint

@[simp] theorem tolerates_u8_withDefault : (u8.withDefault 0).Tolerates Json.defaults := by
  refine tolerates_defaults (readsBack_withDefault readsBack_u8 0) nofun nofun (fun a ha => ?_) nofun
  have hzero := eq_zero_of_int_eq ha
  exact congrArg some (UInt8.toNat.inj (by simp; omega))

@[simp] theorem tolerates_u16_withDefault : (u16.withDefault 0).Tolerates Json.defaults := by
  refine tolerates_defaults (readsBack_withDefault readsBack_u16 0) nofun nofun (fun a ha => ?_) nofun
  have hzero := eq_zero_of_int_eq ha
  exact congrArg some (UInt16.toNat.inj (by simp; omega))

@[simp] theorem tolerates_i32_withDefault : (i32.withDefault 0).Tolerates Json.defaults := by
  refine tolerates_defaults (readsBack_withDefault readsBack_i32 0) nofun nofun (fun a ha => ?_) nofun
  have hzero := eq_zero_of_int_eq ha
  exact congrArg some (Int32.toInt_inj.1 hzero.symm)

@[simp] theorem tolerates_bool_withDefault : (bool.withDefault false).Tolerates Json.defaults := by
  refine tolerates_defaults (readsBack_withDefault readsBack_bool false) nofun nofun nofun
    fun b hb => ?_
  exact congrArg some (Json.bool.inj hb).symm

@[simp] theorem tolerates_text (hsub : omissible ⊆ Json.defaults) : text.Tolerates omissible :=
  (tolerates_defaults readsBack_text nofun nofun nofun nofun).mono hsub

/-- Only a missing value is left out, if the layout leaves none out. -/
theorem tolerates_optional {l : Layout α} (h : l.Tolerates omissible)
    (hnull : l.ofJson? .null = none) (habsent : l.absent = none) :
    l.optional.Tolerates omissible where
  ofJson? a? v hv := by
    rcases a? with _ | a
    · rw [hv.eq_of_flat nofun]
      rfl
    · have hread : l.ofJson? v = some a := h.ofJson? a v hv
      cases v with
      | null =>
        rw [hnull] at hread
        simp at hread
      | _ => simp only [optional, hread, Option.map_some]
  absent a? v hv hmem := by
    rcases a? with _ | a
    · rfl
    · have hkept := h.absent a v hv hmem
      rw [habsent] at hkept
      simp at hkept

@[simp] theorem tolerates_optional_text (hsub : omissible ⊆ Json.defaults) :
    text.optional.Tolerates omissible :=
  tolerates_optional (tolerates_text hsub) ofJson?_null_text rfl

@[simp] theorem tolerates_buffer (hsub : omissible ⊆ Json.defaults) :
    buffer.Tolerates omissible :=
  tolerates_optional ((tolerates_defaults readsBack_bytes nofun nofun nofun nofun).mono hsub)
    ofJson?_null_bytes rfl

end Layout

/-! ### Records -/

namespace Fields

@[simp] theorem tolerates_nil : nil.Tolerates omissible where
  map_fst _ := rfl
  ofMembers? _ _ _ := rfl

@[simp] theorem tolerates_cons {name : String} {l : Layout α} {rest : Fields β}
    (h : l.Tolerates omissible) (hrest : rest.Tolerates omissible) :
    (cons name l rest).Tolerates omissible where
  map_fst b := by
    show name :: (rest.toMembers b.2).map Prod.fst = _
    rw [hrest.map_fst, names_cons]
  ofMembers? b written hwritten := by
    have htail : rest.ofMembers? written = some b.2 :=
      hrest.ofMembers? b.2 written fun m hm => hwritten m (List.mem_cons_of_mem _ hm)
    obtain ⟨value, hvalue, hname | ⟨hname, hmem⟩⟩ :=
      hwritten (name, l.toJson b.1) List.mem_cons_self
    · simp only [cons, hname, h.ofJson? b.1 value hvalue, htail, Option.bind_eq_bind,
        Option.bind_some, Option.pure_def]
    · simp only [cons, hname, h.absent b.1 value hvalue hmem, htail, Option.bind_eq_bind,
        Option.bind_some, Option.pure_def]

theorem failsAt_here {name : String} {json? : Option Json} {l : Layout α} {rest : Fields β}
    (h : (match json? with | some json => l.ofJson? json | none => l.absent) = none) :
    (cons name l rest).FailsAt name json? := by
  intro written hname
  rcases json? with _ | json <;>
    simp only [cons, hname, h, Option.bind_eq_bind, Option.bind_none]

theorem failsAt_there {name name' : String} {json? : Option Json} {l : Layout α} {rest : Fields β}
    (h : rest.FailsAt name json?) : (cons name' l rest).FailsAt name json? := by
  intro written hname
  simp only [cons, h written hname, Option.bind_eq_bind, Option.bind_none]
  rcases written name' with _ | json <;> exact Option.bind_fun_none _

theorem requires_nil : nil.Requires [] := nofun

theorem requires_cons_of_other {name : String} {l : Layout α} {rest : Fields β}
    {names : List String} (h : rest.Requires names) : (cons name l rest).Requires names := by
  intro name' hname'
  obtain ⟨hmem, hfails⟩ := h name' hname'
  exact ⟨List.mem_cons_of_mem name hmem, failsAt_there hfails⟩

theorem requires_cons {name : String} {l : Layout α} {rest : Fields β} {names : List String}
    (habsent : l.absent = none) (h : rest.Requires names) :
    (cons name l rest).Requires (name :: names) := by
  intro name' hname'
  rcases List.mem_cons.1 hname' with rfl | hname'
  · exact ⟨List.mem_cons_self, failsAt_here habsent⟩
  · exact requires_cons_of_other h name' hname'

end Fields

namespace Layout

variable {fields : Fields β} {arity : Arity} {parts : α → β} {build : β → α}

/-- **A record is read from its object after edits.** -/
theorem ofJson?_record_of_edited (h : fields.Tolerates omissible) (hnames : fields.names.Nodup)
    (hbuild : ∀ a, build (parts a) = a) {a : α} {edited : List (String × Json)}
    (hedited : Json.EditedWithin omissible (fields.toMembers (parts a)) edited) :
    (record fields arity parts build).ofJson? (.ofMembers edited) = some a := by
  have hnodup : ((fields.toMembers (parts a)).map Prod.fst).Nodup := by
    rw [h.map_fst]
    exact hnames
  obtain ⟨written, hwritten, hmem⟩ := hedited.exists_fields?_eq arity hnodup
  rw [h.map_fst] at hwritten
  show ((Json.ofMembers edited).fields? fields.names arity >>= fun written =>
    fields.ofMembers? written >>= fun b => some (build b)) = _
  rw [hwritten, Option.bind_eq_bind, Option.bind_some, h.ofMembers? (parts a) written hmem]
  exact congrArg some (hbuild a)

/-- A record within another is read after edits, none of which leaves it out. -/
theorem tolerates_record (h : fields.Tolerates Json.missing) (hnames : fields.names.Nodup)
    (hbuild : ∀ a, build (parts a) = a) :
    (record fields arity parts build).Tolerates Json.defaults := by
  have hrespelled : ∀ a v, ((record fields arity parts build).toJson a).Respelled v →
      ∃ edited, v = .ofMembers edited ∧
        Json.EditedWithin Json.missing (fields.toMembers (parts a)) edited := by
    intro a v hv
    rcases hv with rfl | ⟨members, edited, heq, rfl, hedited⟩
    · exact ⟨_, rfl, Json.Edited.unedited.within⟩
    · rw [← Json.ofMembers_injective heq] at hedited
      exact ⟨edited, rfl, hedited.within⟩
  refine ⟨fun a v hv => ?_, fun a v hv hmem => ?_⟩
  · obtain ⟨edited, rfl, hedited⟩ := hrespelled a v hv
    exact ofJson?_record_of_edited h hnames hbuild hedited
  · obtain ⟨edited, rfl, -⟩ := hrespelled a v hv
    simp [Json.defaults, Json.ofMembers, Json.int] at hmem

variable {name : String}

/-- A record is not read from an object that has at a name what its field does not take. -/
theorem ofJson?_record_of_failsAt {json? : Option Json} (h : fields.FailsAt name json?)
    {members : List (Option String × Json)}
    (hwritten : ∀ written, (Json.object members).fields? fields.names arity = some written →
      written name = json?) :
    (record fields arity parts build).ofJson? (.object members) = none := by
  show ((Json.object members).fields? fields.names arity >>= fun written =>
    fields.ofMembers? written >>= fun b => some (build b)) = none
  rcases hread : (Json.object members).fields? fields.names arity with _ | written
  · rfl
  · rw [Option.bind_eq_bind, Option.bind_some, h written (hwritten written hread)]
    rfl

/-- A record is not read from an object that lacks a field it cannot do without. -/
theorem ofJson?_record_of_lacking (h : fields.FailsAt name none)
    {members : List (Option String × Json)} (hmissing : ∀ m ∈ members, m.1 ≠ some name) :
    (record fields arity parts build).ofJson? (.object members) = none :=
  ofJson?_record_of_failsAt h fun _ hread => Json.written_eq_none hread hmissing

/-- A record is not read from an object with a member that its field does not take. -/
theorem ofJson?_record_of_mem {json : Json} (h : fields.FailsAt name (some json))
    (hname : name ∈ fields.names) {members : List (Option String × Json)}
    (hmem : (some name, json) ∈ members) :
    (record fields arity parts build).ofJson? (.object members) = none :=
  ofJson?_record_of_failsAt h fun _ hread => Json.written_eq_some hread hname hmem

end Layout

end WifiDirect
