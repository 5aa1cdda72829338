import WifiDirect.Proofs.AddressText
import WifiDirect.Proofs.ServiceNames
import Mathlib.Data.List.Induction
import Mathlib.Data.List.ReduceOption

/-!
# Bodies of service records are read back

`Service.bodies_read_back`: of a query that is written as its labels and an ending, of the labels of
an instance behind it, of entries `key=value` with empty ones in between, and of names between
commas, nothing is lost. Of several entries with one key the last stands.
-/

namespace WifiDirect

namespace Text

theorem splitOnce?_append_cons {sep : Char} {front : List Char} (h : sep ∉ front)
    (rest : List Char) : splitOnce? sep (front ++ sep :: rest) = some (front, rest) := by
  induction front with
  | nil =>
    rw [List.nil_append, splitOnce?]
    exact if_pos rfl
  | cons c front ih =>
    have hc : c ≠ sep := fun hc => h (hc ▸ List.mem_cons_self)
    have hfront : sep ∉ front := fun hmem => h (List.mem_cons_of_mem c hmem)
    rw [List.cons_append, splitOnce?, if_neg hc, ih hfront]
    rfl

theorem join_eq_intercalate (sep : Char) (parts : List (List Char)) :
    join sep parts = [sep].intercalate parts := by
  induction parts with
  | nil => rfl
  | cons part parts ih =>
    cases parts with
    | nil => rw [List.intercalate_singleton]; rfl
    | cons p ps =>
      rw [join_cons_cons, ih, List.intercalate_cons_cons, List.append_assoc]
      rfl

/-- **The last entry with a key stands**, and there are no keys but those of the entries. -/
theorem Table.get?_ofList (entries : List (String × String)) (key : String) :
    (Table.ofList entries).get? key = entries.reverse.lookup key := by
  induction entries using List.reverseRecOn with
  | nil => rfl
  | append_singleton entries e ih =>
    have hinsert : Table.ofList (entries ++ [e]) = (Table.ofList entries).insert e.1 e.2 := by
      rw [Table.ofList, List.foldl_append]
      rfl
    rw [hinsert, Table.get?_insert, ih, List.reverse_append, List.reverse_singleton,
      List.singleton_append]
    by_cases hkey : key = e.1
    · rw [if_pos hkey, hkey, List.lookup_cons_self]
    · rw [if_neg hkey, List.lookup_cons, beq_false_of_ne hkey]

end Text

namespace Service

/-! ### Written names -/

/-- A text that may be a label: it takes 1 to 255 bytes, but not 192. -/
structure TextLabel where
  text : String
  size_pos : 0 < text.utf8ByteSize
  size_lt : text.utf8ByteSize < 256
  size_ne : text.utf8ByteSize ≠ 192

namespace TextLabel

/-- The bytes of a text label: how many the text takes, and the text. -/
def bytes (l : TextLabel) : Bytes := UInt8.ofNat l.text.utf8ByteSize :: Utf8.bytes l.text

/-- The label with the bytes of a text. -/
def label (l : TextLabel) : Label where
  content := Utf8.bytes l.text
  length_pos := Utf8.utf8ByteSize_eq_length_bytes l.text ▸ l.size_pos
  length_lt := Utf8.utf8ByteSize_eq_length_bytes l.text ▸ l.size_lt
  length_ne := Utf8.utf8ByteSize_eq_length_bytes l.text ▸ l.size_ne

theorem bytes_label (l : TextLabel) : l.label.bytes = l.bytes := by
  rw [bytes, Utf8.utf8ByteSize_eq_length_bytes]
  rfl

theorem text_label (l : TextLabel) : l.label.text = l.text := Utf8.lossyText_bytes l.text

theorem flatMap_bytes_label (labels : List TextLabel) :
    (labels.map label).flatMap Label.bytes = labels.flatMap bytes := by
  rw [List.flatMap_map]
  exact List.flatMap_congr fun l _ => l.bytes_label

theorem map_text_label (labels : List TextLabel) :
    (labels.map label).map Label.text = labels.map text := by
  rw [List.map_map]
  exact List.map_congr_left fun l _ => l.text_label

end TextLabel

/-- The endings of a query. -/
inductive QueryEnd
  | stop
  | tcp
  | local_
  | udp

namespace QueryEnd

/-- The bytes of an ending. -/
def bytes : QueryEnd → Bytes
  | stop => [0x00]
  | tcp => [0xC0, 0x0C]
  | local_ => [0xC0, 0x11]
  | udp => [0xC0, 0x1C]

/-- The text that an ending stands for. -/
def text : QueryEnd → String
  | stop => ""
  | tcp => "_tcp.local."
  | local_ => "local."
  | udp => "_udp.local."

/-- An ending of a query is one of a name. -/
theorem exists_nameEnd (e : QueryEnd) :
    ∃ ending : NameEnd, ending.bytes = e.bytes ∧ ending.suffix? none = some e.text := by
  cases e with
  | stop => exact ⟨.stop, rfl, rfl⟩
  | tcp => exact ⟨.pointer 0x0C, rfl, rfl⟩
  | local_ => exact ⟨.pointer 0x11, rfl, rfl⟩
  | udp => exact ⟨.pointer 0x1C, rfl, rfl⟩

end QueryEnd

/-- A query as it is written. -/
structure Query where
  labels : List TextLabel
  ending : QueryEnd

namespace Query

/-- The bytes of a query: those of its labels and of its ending. -/
def bytes (q : Query) : Bytes := q.labels.flatMap TextLabel.bytes ++ q.ending.bytes

/-- The name that is asked for: the labels, each with a dot behind it, and what the ending stands
for. -/
def text (q : Query) : String :=
  (q.labels.map TextLabel.text).foldr (fun label name => label ++ "." ++ name) q.ending.text

theorem nameText_labels (q : Query) :
    nameText (q.labels.map TextLabel.label) q.ending.text = q.text := by
  rw [text, ← TextLabel.map_text_label, nameText, List.foldr_map (f := Label.text)]

/-- **A query is read back**, whatever follows it. -/
theorem readName?_bytes (q : Query) (rest : Bytes) :
    readName? none (q.bytes ++ rest) = some (q.text, rest) := by
  obtain ⟨ending, hbytes, hsuffix⟩ := q.ending.exists_nameEnd
  rw [bytes, ← TextLabel.flatMap_bytes_label, ← hbytes, readName?_of_labels _ hsuffix,
    nameText_labels]

end Query

/-- Behind the labels of an instance the pointer to the query stands for the query. -/
theorem readName?_instance (query : String) (labels : List TextLabel) :
    readName? (some query) (labels.flatMap TextLabel.bytes ++ [0xC0, 0x27]) =
      some (nameText (labels.map TextLabel.label) query, []) := by
  have hpointer : (NameEnd.pointer queryKey).suffix? (some query) = some query := rfl
  have hread := readName?_of_labels (labels.map TextLabel.label) hpointer []
  rw [TextLabel.flatMap_bytes_label, List.append_nil] at hread
  exact hread

/-! ### Written entries -/

/-- An entry of a text table that can be written: there is no equals sign in the key, and the entry
takes at most 255 bytes. -/
structure Entry where
  key : String
  value : String
  plain_key : '=' ∉ key.toList
  size_lt : (key ++ "=" ++ value).utf8ByteSize < 256

namespace Entry

/-- The text of an entry. -/
def text (e : Entry) : String := e.key ++ "=" ++ e.value

/-- The bytes of an entry: how many its text takes, and its text. -/
def bytes (e : Entry) : Bytes := UInt8.ofNat e.text.utf8ByteSize :: Utf8.bytes e.text

/-- The entry in a table. -/
def pair (e : Entry) : String × String := (e.key, e.value)

theorem toList_text (e : Entry) : e.text.toList = e.key.toList ++ '=' :: e.value.toList := by
  rw [text, String.toList_append, String.toList_append, List.append_assoc]
  rfl

theorem size_pos (e : Entry) : 0 < e.text.utf8ByteSize := by
  have hequals : "=".utf8ByteSize = 1 := rfl
  rw [text, String.utf8ByteSize_append, String.utf8ByteSize_append]
  omega

theorem entry?_bytes (e : Entry) : entry? (Utf8.bytes e.text) = some e.pair := by
  rw [ entry?, Utf8.bytes_eq_encode, Utf8.lossy_encode, toList_text,
    Text.splitOnce?_append_cons e.plain_key, Option.map_some]
  dsimp only
  rw [String.ofList_toList, String.ofList_toList, pair]

end Entry

/-- The bytes of what may stand in a text table: an entry, or a length of zero. -/
def itemBytes : Option Entry → Bytes
  | none => [0]
  | some e => e.bytes

theorem entries?_zero (bs : Bytes) : entries? (0 :: bs) = entries? bs := by
  rw [entries?.eq_def]
  exact if_pos rfl

theorem entries?_bytes (e : Entry) {bs : Bytes} {pairs : List (String × String)}
    (h : entries? bs = some pairs) : entries? (e.bytes ++ bs) = some (e.pair :: pairs) := by
  have hlength : (UInt8.ofNat e.text.utf8ByteSize).toNat = (Utf8.bytes e.text).length := by
    have hlt : e.text.utf8ByteSize < 256 := e.size_lt
    rw [← Utf8.utf8ByteSize_eq_length_bytes, UInt8.toNat_ofNat', Nat.mod_eq_of_lt hlt]
  have hne : UInt8.ofNat e.text.utf8ByteSize ≠ 0 := by
    intro hzero
    have hpos := e.size_pos
    rw [hzero, ← Utf8.utf8ByteSize_eq_length_bytes] at hlength
    have hzero : (0 : UInt8).toNat = 0 := rfl
    omega
  have hsplit : Bytes.splitExact (UInt8.ofNat e.text.utf8ByteSize).toNat
      (Utf8.bytes e.text ++ bs) = some (Utf8.bytes e.text, bs) := by
    rw [hlength]
    exact Bytes.splitExact_append _ _
  show entries? (UInt8.ofNat e.text.utf8ByteSize :: (Utf8.bytes e.text ++ bs)) = _
  rw [entries?.eq_def]
  dsimp only
  rw [if_neg hne]
  split
  · rename_i hnone
    rw [hsplit] at hnone
    cases hnone
  · rename_i content rest hsome
    rw [hsplit] at hsome
    obtain ⟨rfl, rfl⟩ := Prod.mk.inj (Option.some.inj hsome)
    rw [e.entry?_bytes, h]

/-- **The entries of a text table are read back**; lengths of zero say nothing. -/
theorem entries?_flatMap (items : List (Option Entry)) :
    entries? (items.flatMap itemBytes) = some (items.reduceOption.map Entry.pair) := by
  induction items with
  | nil =>
    rw [List.flatMap_nil, entries?.eq_def]
    rfl
  | cons item items ih =>
    rw [List.flatMap_cons]
    cases item with
    | none =>
      rw [List.reduceOption_cons_of_none]
      exact (entries?_zero _).trans ih
    | some e =>
      rw [List.reduceOption_cons_of_some, List.map_cons]
      exact entries?_bytes e ih

/-! ### Bodies -/

theorem NameAnswer.parse?_instance (query : Query) (version : UInt8) {labels : List TextLabel}
    (h : labels ≠ []) :
    NameAnswer.parse? (query.bytes ++ [0x00, 0x0C, version] ++ labels.flatMap TextLabel.bytes ++
        [0xC0, 0x27]) =
      some ⟨query.text, 12, version, some (".".intercalate (labels.map TextLabel.text)), .empty⟩ := by
  have hne : labels.map TextLabel.label ≠ [] := by
    rw [ne_eq, List.map_eq_nil_iff]
    exact h
  refine NameAnswer.parse?_eq_some_iff.2 (.naming ?_ (readName?_instance query.text labels) ?_)
  · rw [List.append_assoc, List.append_assoc]
    exact query.readName?_bytes _
  · rw [nameText_eq_intercalate hne, TextLabel.map_text_label]
    exact instanceOf?_append _ _

theorem NameAnswer.parse?_texts (query : Query) (version : UInt8) (items : List (Option Entry)) :
    NameAnswer.parse? (query.bytes ++ [0x00, 0x10, version] ++ items.flatMap itemBytes) =
      some ⟨query.text, 16, version, none, .ofList (items.reduceOption.map Entry.pair)⟩ := by
  refine NameAnswer.parse?_eq_some_iff.2 (.listing ?_ (entries?_flatMap items))
  rw [List.append_assoc]
  exact query.readName?_bytes _

theorem Announcement.parse?_intercalate (version : UInt8) {names : List String} (hne : names ≠ [])
    (h : ∀ name ∈ names, ',' ∉ name.toList) :
    Announcement.parse? (version :: Utf8.bytes (",".intercalate names)) = some ⟨version, names⟩ := by
  have hparts : names.map String.toList ≠ [] := by
    rw [ne_eq, List.map_eq_nil_iff]
    exact hne
  have hplain : ∀ part ∈ names.map String.toList, ',' ∉ part := by
    intro part hpart
    obtain ⟨name, hname, rfl⟩ := List.mem_map.1 hpart
    exact h name hname
  have htext : (",".intercalate names).toList = Text.join ',' (names.map String.toList) := by
    rw [String.toList_intercalate, Text.join_eq_intercalate]
    rfl
  have hnames : (names.map String.toList).map String.ofList = names := by
    rw [List.map_map]
    exact List.map_id'' (fun _ => String.ofList_toList) names
  rw [Announcement.parse?, Utf8.bytes_eq_encode, Utf8.lossy_encode, htext,
    Text.split_join hparts hplain, hnames]

/-- **Bodies of service records are read back**: the labels of an instance behind a query, the
entries of a table behind a query, of which the last with a key stands, and names between commas. -/
theorem bodies_read_back (query : Query) (version : UInt8) :
    (∀ labels : List TextLabel, labels ≠ [] →
      NameAnswer.parse? (query.bytes ++ [0x00, 0x0C, version] ++ labels.flatMap TextLabel.bytes ++
          [0xC0, 0x27]) =
        some ⟨query.text, 12, version, some (".".intercalate (labels.map TextLabel.text)),
          .empty⟩) ∧
    (∀ items : List (Option Entry), ∃ texts,
      NameAnswer.parse? (query.bytes ++ [0x00, 0x10, version] ++ items.flatMap itemBytes) =
          some ⟨query.text, 16, version, none, texts⟩ ∧
        ∀ key, texts.get? key = (items.reduceOption.map Entry.pair).reverse.lookup key) ∧
    ∀ names : List String, names ≠ [] → (∀ name ∈ names, ',' ∉ name.toList) →
      Announcement.parse? (version :: Utf8.bytes (",".intercalate names)) =
        some ⟨version, names⟩ := by
  refine ⟨fun labels hne => NameAnswer.parse?_instance query version hne, fun items => ?_,
    fun names hne hplain => Announcement.parse?_intercalate version hne hplain⟩
  exact ⟨_, NameAnswer.parse?_texts query version items, Text.Table.get?_ofList _⟩

/-- A printer, a table with a key that is written twice, and two names. -/
theorem bodies_read_back_printer :
    NameAnswer.parse? [4, 95, 105, 112, 112, 0xC0, 0x0C, 0x00, 0x0C, 1, 1, 65, 1, 66, 0xC0, 0x27] =
        some ⟨"_ipp._tcp.local.", 12, 1, some "A.B", .empty⟩ ∧
      (∃ texts, NameAnswer.parse? [4, 95, 105, 112, 112, 0xC0, 0x0C, 0x00, 0x10, 1, 3, 97, 61, 98, 0,
            4, 97, 61, 61, 99] = some ⟨"_ipp._tcp.local.", 16, 1, none, texts⟩ ∧
          texts.get? "a" = some "=c") ∧
      Announcement.parse? [1, 65, 44, 66] = some ⟨1, ["A", "B"]⟩ := by
  have hread := bodies_read_back ⟨[⟨"_ipp", by decide, by decide, by decide⟩], .tcp⟩ 1
  refine ⟨?_, ?_, ?_⟩
  · exact hread.1 [⟨"A", by decide, by decide, by decide⟩, ⟨"B", by decide, by decide, by decide⟩]
      (by simp)
  · obtain ⟨texts, htexts, hget⟩ := hread.2.1 [some ⟨"a", "b", by decide, by decide⟩, none,
      some ⟨"a", "=c", by decide, by decide⟩]
    exact ⟨texts, htexts, hget "a"⟩
  · exact hread.2.2 ["A", "B"] (by simp) (by decide)

end Service

end WifiDirect
