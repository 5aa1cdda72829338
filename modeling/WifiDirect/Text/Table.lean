/-!
# Tables of texts

Texts by key, kept in the order of their keys, so that two tables with the same entries are equal.
A later entry takes the place of an earlier one with its key (`get?_insert`).
-/

namespace WifiDirect.Text

/-- Texts by key, in the order of the keys. -/
structure Table where
  entries : List (String × String)
  sorted : entries.Pairwise fun a b => a.1 < b.1
  deriving DecidableEq, Repr

namespace Table

/-- The table without entries. -/
def empty : Table := ⟨[], .nil⟩

/-- An entry put where its key belongs, in place of an entry with that key. -/
def insertEntry (key value : String) : List (String × String) → List (String × String)
  | [] => [(key, value)]
  | (k, v) :: rest =>
    if key < k then (key, value) :: (k, v) :: rest
    else if key = k then (key, value) :: rest
    else (k, v) :: insertEntry key value rest

theorem mem_insertEntry {key value : String} {e : String × String} {entries : List (String × String)}
    (h : e ∈ insertEntry key value entries) : e = (key, value) ∨ e ∈ entries := by
  induction entries with
  | nil => simpa [insertEntry] using h
  | cons head rest ih =>
    simp only [insertEntry] at h
    split at h
    · simpa using h
    · split at h
      · simp only [List.mem_cons] at h ⊢
        rcases h with h | h
        · exact .inl h
        · exact .inr (.inr h)
      · simp only [List.mem_cons] at h ⊢
        rcases h with h | h
        · exact .inr (.inl h)
        · exact (ih h).imp_right .inr

theorem sorted_insertEntry {key value : String} {entries : List (String × String)}
    (h : entries.Pairwise fun a b => a.1 < b.1) :
    (insertEntry key value entries).Pairwise fun a b => a.1 < b.1 := by
  induction entries with
  | nil => simp [insertEntry]
  | cons head rest ih =>
    obtain ⟨hhead, hrest⟩ := List.pairwise_cons.1 h
    simp only [insertEntry]
    split
    · rename_i hlt
      refine List.pairwise_cons.2 ⟨fun e he => ?_, h⟩
      rcases List.mem_cons.1 he with rfl | he
      · exact hlt
      · exact String.lt_trans hlt (hhead e he)
    · split
      · rename_i heq
        subst heq
        exact List.pairwise_cons.2 ⟨hhead, hrest⟩
      · refine List.pairwise_cons.2 ⟨fun e he => ?_, ih hrest⟩
        rcases mem_insertEntry he with rfl | he
        · grind
        · exact hhead e he

/-- The table with one more entry. -/
def insert (t : Table) (key value : String) : Table :=
  ⟨insertEntry key value t.entries, sorted_insertEntry t.sorted⟩

/-- The table of the entries of a list, of which the last with a key stands. -/
def ofList (entries : List (String × String)) : Table :=
  entries.foldl (fun t e => t.insert e.1 e.2) empty

/-- The text at a key. -/
def get? (t : Table) (key : String) : Option String :=
  t.entries.lookup key

theorem lookup_insertEntry (key value k : String) (entries : List (String × String)) :
    (insertEntry key value entries).lookup k =
      if k = key then some value else entries.lookup k := by
  induction entries with
  | nil =>
    by_cases h : k = key
    · rw [h, insertEntry, List.lookup_cons_self, if_pos rfl]
    · rw [insertEntry, List.lookup_cons, beq_false_of_ne h, if_neg h]
  | cons head rest ih =>
    obtain ⟨k', v'⟩ := head
    rw [insertEntry]
    by_cases h : k = key
    · rw [h, if_pos rfl] at ih ⊢
      split
      · rw [List.lookup_cons_self]
      · split
        · rw [List.lookup_cons_self]
        · rename_i hne
          rw [List.lookup_cons, beq_false_of_ne hne, ih]
    · rw [if_neg h] at ih ⊢
      split
      · rw [List.lookup_cons, beq_false_of_ne h]
      · split
        · rename_i heq
          rw [List.lookup_cons, List.lookup_cons, ← heq, beq_false_of_ne h]
        · rw [List.lookup_cons, List.lookup_cons, ih]

/-- **The last entry at a key stands, and no other key is touched.** -/
theorem get?_insert (t : Table) (key value k : String) :
    (t.insert key value).get? k = if k = key then some value else t.get? k :=
  lookup_insertEntry key value k t.entries

end Table

end WifiDirect.Text
