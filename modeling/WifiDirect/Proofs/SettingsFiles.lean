import WifiDirect.Settings.File
import WifiDirect.Proofs.Utf8
import Mathlib.Data.List.Induction
import Mathlib.Data.List.Nodup

/-!
# Settings files

`Settings.File.choices_eq_iff`: what a settings file chooses, and why another is rejected. A file is
taken as a whole or not at all: one assignment to an unknown key, to a key that is assigned already,
of a value of the wrong type or of an unknown output, wherever it stands, and the file chooses
nothing.

The assignments are made one after the other. `Choices.assign_chosen` is one of them, behind others
that have been made (`chosen`); all of them follow by induction (`Choices.foldlM_assign`).
-/

namespace WifiDirect

/-- The word that names an output. -/
def Output.word : Output → String
  | .log => "log"
  | .json => "json"

theorem Output.parse?_eq_some_iff {s : String} {o : Output} : parse? s = some o ↔ s = o.word := by
  unfold parse?
  split_ifs with hlog hjson
  · subst hlog
    cases o <;> simp [word]
  · subst hjson
    cases o <;> simp [word]
  · cases o <;> simp [word, hlog, hjson]

namespace Settings

variable {as : List Assignment} {a : Assignment}

/-! ### Assignments -/

/-- The keys of a settings file. -/
def keys : List Key :=
  ["interface".toList, "output".toList, "log_filter".toList]

theorem interface_ne_output : "interface".toList ≠ "output".toList := by decide

theorem interface_ne_logFilter : "interface".toList ≠ "log_filter".toList := by decide

theorem output_ne_logFilter : "output".toList ≠ "log_filter".toList := by decide

/-- The keys that take a text. -/
def textKeys : List Key :=
  ["interface".toList, "log_filter".toList]

/-- A value that is a text. -/
def Value.IsText (v : Value) : Prop :=
  ∃ content, v = .text content

/-- A value that names an output, by its word or as the only member of a table. -/
def Value.NamesOutput (v : Value) (o : Output) : Prop :=
  v = .text o.word.toList ∨ v = .member o.word.toList

theorem Value.text?_eq_some_iff {v : Value} {s : String} :
    v.text? = some s ↔ v = .text s.toList := by
  cases v with
  | text content =>
    rw [text?, Option.some.injEq, Value.text.injEq]
    exact ⟨fun h => h ▸ String.toList_ofList.symm, fun h => h ▸ String.ofList_toList⟩
  | blank => exact iff_of_false nofun nofun
  | member key => exact iff_of_false nofun nofun

theorem Value.output?_eq_some_iff {v : Value} {o : Output} :
    v.output? = some o ↔ v.NamesOutput o := by
  have hword (cs : List Char) : Output.parse? (String.ofList cs) = some o ↔ cs = o.word.toList := by
    rw [Output.parse?_eq_some_iff]
    exact ⟨fun h => h ▸ String.toList_ofList.symm, fun h => h ▸ String.ofList_toList⟩
  cases v with
  | text content => simp [output?, NamesOutput, hword]
  | blank => exact iff_of_false nofun (by simp [NamesOutput])
  | member key => simp [output?, NamesOutput, hword]

/-- Whether an assignment is of a value that its key takes. -/
structure Assignment.Suits (a : Assignment) : Prop where
  text : a.key ∈ textKeys → a.value.IsText
  output : a.key = "output".toList → ∃ o, a.value.NamesOutput o

/-- The assignments that a settings file may make. -/
structure Acceptable (as : List Assignment) : Prop where
  known : ∀ a ∈ as, a.key ∈ keys
  once : (as.map Assignment.key).Nodup
  suits : ∀ a ∈ as, a.Suits

/-- Whether an assignment may stand behind others. -/
structure Assignment.Fits (as : List Assignment) (a : Assignment) : Prop where
  known : a.key ∈ keys
  new : a.key ∉ as.map Assignment.key
  suits : a.Suits

/-- The value that is assigned to a key. -/
def assigned? (as : List Assignment) (key : String) : Option Value :=
  (as.find? fun a => a.key = key.toList).map Assignment.value

/-- What assignments choose. -/
def chosen (as : List Assignment) : Choices where
  interface? := (assigned? as "interface").bind Value.text?
  output? := (assigned? as "output").bind Value.output?
  logFilter? := (assigned? as "log_filter").bind Value.text?

theorem acceptable_nil : Acceptable [] :=
  ⟨nofun, List.nodup_nil, nofun⟩

theorem acceptable_concat_iff : Acceptable (as ++ [a]) ↔ Acceptable as ∧ a.Fits as := by
  constructor
  · rintro ⟨hknown, honce, hsuits⟩
    rw [List.map_append, List.map_singleton, List.nodup_append_comm] at honce
    have hnodup := List.nodup_cons.1 honce
    refine ⟨⟨fun b hb => hknown b ?_, hnodup.2, fun b hb => hsuits b ?_⟩,
      hknown a ?_, hnodup.1, hsuits a ?_⟩ <;> simp [*]
  · rintro ⟨h, hfits⟩
    refine ⟨?_, ?_, ?_⟩
    · simpa [or_imp, forall_and] using ⟨h.known, hfits.known⟩
    · rw [List.map_append, List.map_singleton, List.nodup_append_comm]
      exact List.nodup_cons.2 ⟨hfits.new, h.once⟩
    · simpa [or_imp, forall_and] using ⟨h.suits, hfits.suits⟩

theorem assigned?_eq_none_iff {key : String} :
    assigned? as key = none ↔ key.toList ∉ as.map Assignment.key := by
  simp [assigned?]

theorem assigned?_append (as bs : List Assignment) (key : String) :
    assigned? (as ++ bs) key = (assigned? as key).or (assigned? bs key) := by
  rw [assigned?, List.find?_append, Option.map_or]
  rfl

theorem assigned?_singleton_of_eq {key : String} (h : a.key = key.toList) :
    assigned? [a] key = some a.value := by
  rw [assigned?, List.find?_cons_of_pos (by simpa using h)]
  rfl

theorem assigned?_singleton_of_ne {key : String} (h : a.key ≠ key.toList) :
    assigned? [a] key = none := by
  rw [assigned?, List.find?_cons_of_neg (by simpa using h)]
  rfl

theorem assigned?_concat_of_eq {key : String} (h : a.key = key.toList)
    (hnew : assigned? as key = none) : assigned? (as ++ [a]) key = some a.value := by
  rw [assigned?_append, hnew, assigned?_singleton_of_eq h]
  rfl

theorem assigned?_concat_of_ne {key : String} (h : a.key ≠ key.toList) :
    assigned? (as ++ [a]) key = assigned? as key := by
  rw [assigned?_append, assigned?_singleton_of_ne h, Option.or_none]

theorem fits_iff {key : String} (h : a.key = key.toList) :
    a.Fits as ↔ key.toList ∈ keys ∧ assigned? as key = none ∧ a.Suits := by
  rw [assigned?_eq_none_iff, ← h]
  exact ⟨fun hfits => ⟨hfits.known, hfits.new, hfits.suits⟩,
    fun ⟨hknown, hnew, hsuits⟩ => ⟨hknown, hnew, hsuits⟩⟩

theorem suits_iff_of_text (h : a.key ∈ textKeys) :
    a.Suits ↔ ∃ s, a.value.text? = some s := by
  have hne : "output".toList ∉ textKeys := by decide
  have hnot : a.key ≠ "output".toList := fun hkey => hne (hkey ▸ h)
  constructor
  · intro hsuits
    obtain ⟨content, hcontent⟩ := hsuits.text h
    exact ⟨String.ofList content, by rw [hcontent, Value.text?]⟩
  · rintro ⟨s, hs⟩
    exact ⟨fun _ => ⟨_, Value.text?_eq_some_iff.1 hs⟩, fun hkey => absurd hkey hnot⟩

theorem suits_iff_of_output (h : a.key = "output".toList) :
    a.Suits ↔ ∃ o, a.value.output? = some o := by
  have hne : "output".toList ∉ textKeys := by decide
  constructor
  · intro hsuits
    obtain ⟨o, ho⟩ := hsuits.output h
    exact ⟨o, Value.output?_eq_some_iff.2 ho⟩
  · rintro ⟨o, ho⟩
    exact ⟨fun hkey => absurd (h ▸ hkey) hne, fun _ => ⟨o, Value.output?_eq_some_iff.1 ho⟩⟩

theorem chosen_concat_interface (h : a.key = "interface".toList)
    (hnew : assigned? as "interface" = none) : chosen (as ++ [a]) =
      { chosen as with interface? := a.value.text? } := by
  rw [chosen, assigned?_concat_of_eq h hnew, assigned?_concat_of_ne (h ▸ interface_ne_output),
    assigned?_concat_of_ne (h ▸ interface_ne_logFilter)]
  rfl

theorem chosen_concat_output (h : a.key = "output".toList)
    (hnew : assigned? as "output" = none) : chosen (as ++ [a]) =
      { chosen as with output? := a.value.output? } := by
  rw [chosen, assigned?_concat_of_eq h hnew, assigned?_concat_of_ne (h ▸ interface_ne_output.symm),
    assigned?_concat_of_ne (h ▸ output_ne_logFilter)]
  rfl

theorem chosen_concat_logFilter (h : a.key = "log_filter".toList)
    (hnew : assigned? as "log_filter" = none) : chosen (as ++ [a]) =
      { chosen as with logFilter? := a.value.text? } := by
  rw [chosen, assigned?_concat_of_eq h hnew, assigned?_concat_of_ne (h ▸ interface_ne_logFilter.symm),
    assigned?_concat_of_ne (h ▸ output_ne_logFilter.symm)]
  rfl

/-- A setting is chosen where its key is assigned to. -/
theorem bind_assigned?_eq_none_iff {α : Type} {key : String} {read? : Value → Option α}
    (h : ∀ a ∈ as, a.key = key.toList → ∃ v, read? a.value = some v) :
    (assigned? as key).bind read? = none ↔ assigned? as key = none := by
  rcases hvalue : assigned? as key with _ | value
  · simp
  · obtain ⟨a, hfind, rfl⟩ := Option.map_eq_some_iff.1 hvalue
    have hfound := List.find?_some hfind
    obtain ⟨v, hv⟩ := h a (List.mem_of_find?_eq_some hfind) (of_decide_eq_true hfound)
    simp [hv]

namespace Choices

variable {choices c : Choices}

/-- A setting that is set once had no value. -/
theorem bind_setOnce_eq_some_iff {α : Type} {old? : Option α} {new : α}
    {f : Option α → Choices} :
    ((setOnce old? new).bind fun new? => some (f new?)) = some c ↔
      old? = none ∧ c = f (some new) := by
  rcases old? with _ | old <;> simp [setOnce, eq_comm]

theorem assign_interface (h : a.key = "interface".toList) : choices.assign a = some c ↔
    ∃ s, a.value.text? = some s ∧
      choices.interface? = none ∧ c = { choices with interface? := some s } := by
  rw [assign, if_pos h, Option.bind_eq_bind, Option.bind_eq_some_iff]
  exact exists_congr fun s => and_congr_right fun _ => bind_setOnce_eq_some_iff

theorem assign_output (h : a.key = "output".toList) : choices.assign a = some c ↔
    ∃ o, a.value.output? = some o ∧
      choices.output? = none ∧ c = { choices with output? := some o } := by
  have hne : a.key ≠ "interface".toList := h ▸ interface_ne_output.symm
  rw [assign, if_neg hne, if_pos h, Option.bind_eq_bind, Option.bind_eq_some_iff]
  exact exists_congr fun o => and_congr_right fun _ => bind_setOnce_eq_some_iff

theorem assign_logFilter (h : a.key = "log_filter".toList) : choices.assign a = some c ↔
    ∃ s, a.value.text? = some s ∧
      choices.logFilter? = none ∧ c = { choices with logFilter? := some s } := by
  have hne : a.key ≠ "interface".toList := h ▸ interface_ne_logFilter.symm
  have hne' : a.key ≠ "output".toList := h ▸ output_ne_logFilter.symm
  rw [assign, if_neg hne, if_neg hne', if_pos h, Option.bind_eq_bind, Option.bind_eq_some_iff]
  exact exists_congr fun s => and_congr_right fun _ => bind_setOnce_eq_some_iff

theorem assign_unknown (h : a.key ∉ keys) : choices.assign a = none := by
  simp only [keys, List.mem_cons, List.not_mem_nil, or_false, not_or] at h
  rw [assign, if_neg h.1, if_neg h.2.1, if_neg h.2.2]

/-- An assignment that sets what it is read as, where nothing is set, is chosen if it fits. -/
theorem fits_and_eq_chosen_iff {α : Type} {key : String} (hkey : a.key = key.toList)
    (hknown : key.toList ∈ keys) (set : Option α → Choices) {read? : Value → Option α}
    {old? : Option α} (hold : old? = none ↔ assigned? as key = none)
    (hsuits : a.Suits ↔ ∃ v, read? a.value = some v)
    (hconcat : assigned? as key = none → chosen (as ++ [a]) = set (read? a.value)) :
    (∃ v, read? a.value = some v ∧ old? = none ∧ c = set (some v)) ↔
      a.Fits as ∧ c = chosen (as ++ [a]) := by
  rw [fits_iff hkey, hsuits, hold]
  constructor
  · rintro ⟨v, hv, hnew, rfl⟩
    exact ⟨⟨hknown, hnew, v, hv⟩, by rw [hconcat hnew, hv]⟩
  · rintro ⟨⟨-, hnew, v, hv⟩, rfl⟩
    exact ⟨v, hv, hnew, by rw [hconcat hnew, hv]⟩

/-- **One assignment**: it has to fit those before it, and is then chosen as well. -/
theorem assign_chosen (h : Acceptable as) :
    (chosen as).assign a = some c ↔ a.Fits as ∧ c = chosen (as ++ [a]) := by
  have htext {key : String} (hkey : key.toList ∈ textKeys) :
      (assigned? as key).bind Value.text? = none ↔ assigned? as key = none :=
    bind_assigned?_eq_none_iff fun b hb hb' => (suits_iff_of_text (hb' ▸ hkey)).1 (h.suits b hb)
  have houtput : (assigned? as "output").bind Value.output? = none ↔
      assigned? as "output" = none :=
    bind_assigned?_eq_none_iff fun b hb hb' => (suits_iff_of_output hb').1 (h.suits b hb)
  have hinterface : "interface".toList ∈ textKeys := by decide
  have hlogFilter : "log_filter".toList ∈ textKeys := by decide
  by_cases hkey : a.key ∈ keys
  · simp only [keys, List.mem_cons, List.not_mem_nil, or_false] at hkey
    rcases hkey with hkey | hkey | hkey
    · rw [assign_interface hkey]
      exact fits_and_eq_chosen_iff hkey (by decide) (fun s? => { chosen as with interface? := s? })
        (htext hinterface) (suits_iff_of_text (hkey ▸ hinterface))
        (chosen_concat_interface hkey)
    · rw [assign_output hkey]
      exact fits_and_eq_chosen_iff hkey (by decide) (fun o? => { chosen as with output? := o? })
        houtput (suits_iff_of_output hkey) (chosen_concat_output hkey)
    · rw [assign_logFilter hkey]
      exact fits_and_eq_chosen_iff hkey (by decide) (fun s? => { chosen as with logFilter? := s? })
        (htext hlogFilter) (suits_iff_of_text (hkey ▸ hlogFilter))
        (chosen_concat_logFilter hkey)
  · rw [assign_unknown hkey]
    exact ⟨fun hnone => by simp at hnone, fun hfits => absurd hfits.1.known hkey⟩

/-- **All assignments**: what is chosen is what is acceptable. -/
theorem foldlM_assign : as.foldlM assign unset = some c ↔ Acceptable as ∧ c = chosen as := by
  induction as using List.reverseRecOn generalizing c with
  | nil =>
    show some unset = some c ↔ _
    rw [Option.some.injEq, eq_comm]
    exact (and_iff_right acceptable_nil).symm
  | append_singleton as a ih =>
    have hone (before : Choices) : [a].foldlM assign before = before.assign a := by
      simp
    rw [List.foldlM_append, Option.bind_eq_bind, Option.bind_eq_some_iff, acceptable_concat_iff]
    constructor
    · rintro ⟨before, hbefore, hassign⟩
      obtain ⟨h, rfl⟩ := ih.1 hbefore
      rw [hone, assign_chosen h] at hassign
      exact ⟨⟨h, hassign.1⟩, hassign.2⟩
    · rintro ⟨⟨h, hfits⟩, hc⟩
      refine ⟨chosen as, ih.2 ⟨h, rfl⟩, ?_⟩
      rw [hone, assign_chosen h]
      exact ⟨hfits, hc⟩

end Choices

/-! ### Files -/

/-- What is made of a file: the defaults of none, an error of one that is no settings file for any
reason, and what is chosen of the others. -/
inductive File.TakenFor : File → Except FileError Choices → Prop
  | absent : TakenFor .absent (.ok .unset)
  | directory : TakenFor .directory (.error .reading)
  | notText {bytes : Bytes} (h : ∀ cs, bytes ≠ Utf8.encode cs) :
      TakenFor (.content bytes) (.error .reading)
  /-- A value that no setting takes is such a case. -/
  | malformed {cs : List Char} (h : assignments? cs = none) :
      TakenFor (.content (Utf8.encode cs)) (.error .parsing)
  | unknownKey {cs : List Char} {as : List Assignment} (h : assignments? cs = some as)
      {a : Assignment} (ha : a ∈ as) (hkey : a.key ∉ keys) :
      TakenFor (.content (Utf8.encode cs)) (.error .parsing)
  | repeatedKey {cs : List Char} {as : List Assignment} (h : assignments? cs = some as)
      (hkeys : ¬ (as.map Assignment.key).Nodup) :
      TakenFor (.content (Utf8.encode cs)) (.error .parsing)
  | wrongType {cs : List Char} {as : List Assignment} (h : assignments? cs = some as)
      {a : Assignment} (ha : a ∈ as) (hkey : a.key ∈ textKeys) (htext : ¬ a.value.IsText) :
      TakenFor (.content (Utf8.encode cs)) (.error .parsing)
  | unknownOutput {cs : List Char} {as : List Assignment} (h : assignments? cs = some as)
      {a : Assignment} (ha : a ∈ as) (hkey : a.key = "output".toList)
      (houtput : ∀ o, ¬ a.value.NamesOutput o) :
      TakenFor (.content (Utf8.encode cs)) (.error .parsing)
  | valid {cs : List Char} {as : List Assignment} (h : assignments? cs = some as)
      (has : Acceptable as) : TakenFor (.content (Utf8.encode cs)) (.ok (chosen as))

theorem File.choices_of_parse?_some {cs : List Char} {c : Choices}
    (h : Choices.parse? cs = some c) : File.choices (.content (Utf8.encode cs)) = .ok c := by
  have hdecode : Utf8.decode (Utf8.encode cs) = .ok cs := Utf8.decode_eq_ok_iff.2 rfl
  simp only [File.choices, hdecode, h]

theorem File.choices_of_parse?_none {cs : List Char} (h : Choices.parse? cs = none) :
    File.choices (.content (Utf8.encode cs)) = .error .parsing := by
  have hdecode : Utf8.decode (Utf8.encode cs) = .ok cs := Utf8.decode_eq_ok_iff.2 rfl
  simp only [File.choices, hdecode, h]

theorem File.choices_of_not_acceptable {cs : List Char} (h : assignments? cs = some as)
    (hnot : ¬ Acceptable as) : File.choices (.content (Utf8.encode cs)) = .error .parsing := by
  refine choices_of_parse?_none ?_
  rw [Choices.parse?, h, Option.eq_none_iff_forall_ne_some]
  intro c hc
  exact hnot (Choices.foldlM_assign.1 hc).1

theorem File.TakenFor.choices_eq {file : File} {r : Except FileError Choices}
    (h : file.TakenFor r) : file.choices = r := by
  cases h with
  | absent => rfl
  | directory => rfl
  | @notText bytes h =>
    rw [File.choices]
    rcases hdecode : Utf8.decode bytes with e | cs
    · rfl
    · exact absurd (Utf8.decode_eq_ok_iff.1 hdecode) (h cs)
  | malformed h =>
    refine choices_of_parse?_none ?_
    rw [Choices.parse?, h]
    rfl
  | unknownKey h ha hkey => exact choices_of_not_acceptable h fun has => hkey (has.known _ ha)
  | repeatedKey h hkeys => exact choices_of_not_acceptable h fun has => hkeys has.once
  | wrongType h ha hkey htext =>
    exact choices_of_not_acceptable h fun has => htext ((has.suits _ ha).text hkey)
  | unknownOutput h ha hkey houtput =>
    refine choices_of_not_acceptable h fun has => ?_
    obtain ⟨o, ho⟩ := (has.suits _ ha).output hkey
    exact houtput o ho
  | valid h has =>
    refine choices_of_parse?_some ?_
    rw [Choices.parse?, h]
    exact Choices.foldlM_assign.2 ⟨has, rfl⟩

/-- Every file is taken for something. -/
theorem File.exists_takenFor (file : File) : ∃ r, file.TakenFor r := by
  rcases file with _ | _ | bytes
  · exact ⟨_, .absent⟩
  · exact ⟨_, .directory⟩
  · by_cases htext : ∃ cs, bytes = Utf8.encode cs
    · obtain ⟨cs, rfl⟩ := htext
      rcases h : assignments? cs with _ | as
      · exact ⟨_, .malformed h⟩
      · by_cases hknown : ∀ a ∈ as, a.key ∈ keys
        · by_cases honce : (as.map Assignment.key).Nodup
          · by_cases htext : ∀ a ∈ as, a.key ∈ textKeys → a.value.IsText
            · by_cases houtput : ∀ a ∈ as, a.key = "output".toList → ∃ o, a.value.NamesOutput o
              · exact ⟨_, .valid h ⟨hknown, honce, fun a ha => ⟨htext a ha, houtput a ha⟩⟩⟩
              · simp only [not_forall] at houtput
                obtain ⟨a, ha, hkey, hnot⟩ := houtput
                exact ⟨_, .unknownOutput h ha hkey fun o ho => hnot ⟨o, ho⟩⟩
            · simp only [not_forall] at htext
              obtain ⟨a, ha, hkey, hnot⟩ := htext
              exact ⟨_, .wrongType h ha hkey hnot⟩
          · exact ⟨_, .repeatedKey h honce⟩
        · simp only [not_forall] at hknown
          obtain ⟨a, ha, hkey⟩ := hknown
          exact ⟨_, .unknownKey h ha hkey⟩
    · exact ⟨_, .notText fun cs hcs => htext ⟨cs, hcs⟩⟩

/-- **What a file is taken for**, and nothing else, is what it chooses. -/
theorem File.choices_eq_iff {file : File} {r : Except FileError Choices} :
    file.choices = r ↔ file.TakenFor r := by
  constructor
  · rintro rfl
    obtain ⟨r, h⟩ := file.exists_takenFor
    rw [h.choices_eq]
    exact h
  · exact TakenFor.choices_eq

end Settings

end WifiDirect
