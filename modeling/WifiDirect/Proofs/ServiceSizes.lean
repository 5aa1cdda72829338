import WifiDirect.Proofs.CompositeLaws
import WifiDirect.Proofs.ServiceNames
import WifiDirect.Proofs.ServiceRecords
import WifiDirect.Proofs.Sizes
import Mathlib.Algebra.BigOperators.Ring.List
import Mathlib.Algebra.Order.BigOperators.Group.List

/-!
# How many bytes responses take

What is written for the elements of a buffer is bounded by the buffer if what is written for each is
bounded by its bytes (`Family.sum_items_scan_le`). For a service record the bound is twenty-nine
bytes for every three (`Service.Response.size_layout_le`), which a record with an announcement of no
name attains; for an element of a vendor it is five bytes for one.
-/

namespace WifiDirect

/-! ### Parts of a text -/

namespace Text

/-- What a character weighs: a separator `k`, and any other character what it takes. -/
def weigh (sep : Char) (k : Nat) (c : Char) : Nat := if c = sep then k else c.utf8Size

section Weigh
variable {sep : Char} {k : Nat}

@[simp] theorem weigh_self : weigh sep k sep = k := if_pos rfl

theorem weigh_of_ne {c : Char} (h : c ≠ sep) : weigh sep k c = c.utf8Size := if_neg h

/-- A text weighs at most `m` for each of its bytes if its separators do, and if it is enough for a
replacement character. -/
theorem sum_weigh_lossy_le {m : Nat} (hk : k ≤ m) (hm : 3 ≤ m) (bs : Bytes) :
    ((Utf8.lossy bs).map (weigh sep k)).sum ≤ m * bs.length := by
  have hle : ∀ c, weigh sep k c ≤ m * c.utf8Size := by
    intro c
    by_cases hc : c = sep
    · rw [hc, weigh_self]
      exact hk.trans (Nat.le_mul_of_pos_right m sep.utf8Size_pos)
    · rw [weigh_of_ne hc]
      exact Nat.le_mul_of_pos_left c.utf8Size (by omega)
  refine Utf8.sum_map_lossy_le hle ?_ bs
  by_cases hc : Utf8.replacement = sep
  · rw [← hc, weigh_self]
    exact hk
  · rw [weigh_of_ne hc]
    exact hm

/-- A text weighs what it takes at least, if a separator does. -/
theorem sum_utf8Size_le_sum_weigh (hk : sep.utf8Size ≤ k) (cs : List Char) :
    (cs.map Char.utf8Size).sum ≤ (cs.map (weigh sep k)).sum := by
  refine List.sum_le_sum fun c _ => ?_
  by_cases hc : c = sep
  · rw [hc, weigh_self]
    exact hk
  · rw [weigh_of_ne hc]

/-- The parts of a text, each with `k` bytes more, take what the text weighs, and `k` once. -/
theorem sum_map_split (cs : List Char) :
    ((split sep cs).map fun part => k + (part.map Char.utf8Size).sum).sum =
      k + (cs.map (weigh sep k)).sum := by
  induction cs with
  | nil => rfl
  | cons c cs ih =>
    rw [split]
    cases hsplit : split sep cs with
    | nil => exact absurd hsplit (split_ne_nil sep cs)
    | cons part parts =>
      rw [hsplit, List.map_cons, List.sum_cons] at ih
      rw [List.map_cons, List.sum_cons]
      dsimp only
      by_cases hc : c = sep
      · rw [if_pos hc, hc, weigh_self, List.map_cons, List.sum_cons, List.map_cons, List.sum_cons,
          List.map_nil, List.sum_nil]
        omega
      · rw [if_neg hc, weigh_of_ne hc, List.map_cons, List.sum_cons, List.map_cons, List.sum_cons]
        omega

end Weigh

theorem eq_append_of_splitOnce? {sep : Char} {cs front rest : List Char}
    (h : splitOnce? sep cs = some (front, rest)) : cs = front ++ sep :: rest := by
  induction cs generalizing front with
  | nil => cases h
  | cons c cs ih =>
    rw [splitOnce?] at h
    split at h
    · rename_i hc
      cases h
      rw [hc, List.nil_append]
    · obtain ⟨⟨front', rest'⟩, hsplit, heq⟩ := Option.map_eq_some_iff.1 h
      cases heq
      rw [ih hsplit, List.cons_append]

end Text

/-! ### Elements -/

/-- **What is read of a buffer weighs at most `k` for each byte of it** if what is read of an
element weighs at most `k` for each byte of the element. -/
theorem Family.sum_items_scan_le {ι σ : Type} {f : Family} {read : Element → Except σ ι}
    {weight : ι → Nat} {k : Nat}
    (h : ∀ e item, f.Complete e → read e = .ok item → weight item ≤ k * e.bytes.length)
    (bs : Bytes) : ((f.scan read bs).items.map weight).sum ≤ k * bs.length := by
  have hsum : ∀ elements : List Element, (∀ e ∈ elements, f.Complete e) →
      ((elements.filterMap fun e => (read e).toOption).map weight).sum ≤
        k * (elements.flatMap Element.bytes).length := by
    intro elements hcomplete
    induction elements with
    | nil => exact Nat.zero_le _
    | cons e elements ih =>
      have htail := ih fun e' he' => hcomplete e' (List.mem_cons_of_mem e he')
      rw [List.flatMap_cons, List.length_append, Nat.mul_add]
      cases hread : read e with
      | error why =>
        rw [List.filterMap_cons_none (by rw [hread]; rfl)]
        omega
      | ok item =>
        have hitem := h e item (hcomplete e List.mem_cons_self) hread
        rw [List.filterMap_cons_some (by rw [hread]; rfl), List.map_cons, List.sum_cons]
        omega
  have hle := hsum _ (complete_and_stops_split f bs).1
  have hbytes := congrArg List.length (bytes_split f bs)
  rw [List.length_append] at hbytes
  have hmul : k * ((f.split bs).elements.flatMap Element.bytes).length ≤ k * bs.length :=
    Nat.mul_le_mul_left k (by omega)
  rw [items_scan]
  omega

/-- The elements of vendors take at most five bytes for each byte of the buffer. -/
theorem InformationElement.sum_size_scan_le (bs : Bytes) :
    ((scan bs).items.map layout.size).sum ≤ 5 * bs.length := by
  refine Family.sum_items_scan_le (fun e kept hcomplete hread => ?_) bs
  obtain ⟨-, rfl⟩ := read_eq_ok_iff.1 hread
  have hheader : e.header.length = 2 := hcomplete.length_header
  have hsize := size_layout ⟨221, none, e.payload⟩
  rw [Layout.size_optional_none] at hsize
  dsimp only at hsize
  rw [hsize, Element.bytes, List.length_append]
  omega

namespace Service

/-! ### Names -/

theorem utf8ByteSize_nameText_le (labels : List Label) (suffix : String) :
    (nameText labels suffix).utf8ByteSize ≤
      3 * (labels.flatMap Label.bytes).length + suffix.utf8ByteSize := by
  induction labels with
  | nil => exact Nat.le_add_left _ _
  | cons label labels ih =>
    have htext : label.text.utf8ByteSize ≤ 3 * label.content.length :=
      Utf8.utf8ByteSize_lossyText_le label.content
    have hdot : ".".utf8ByteSize = 1 := rfl
    rw [nameText_cons, String.utf8ByteSize_append, String.utf8ByteSize_append, List.flatMap_cons,
      List.length_append, label.length_bytes]
    omega

/-- A pointer stands for at most five bytes more than three times its own, or for the query. -/
theorem NameEnd.utf8ByteSize_suffix?_le {query? : Option String} {ending : NameEnd}
    {suffix : String} (h : ending.suffix? query? = some suffix) :
    suffix.utf8ByteSize ≤ 3 * ending.bytes.length + 5 + (query?.getD "").utf8ByteSize := by
  cases ending with
  | stop =>
    cases h
    exact Nat.zero_le _
  | pointer key =>
    have hlength : (NameEnd.pointer key).bytes.length = 2 := rfl
    have htcp : "_tcp.local.".utf8ByteSize = 11 := rfl
    have hlocal : "local.".utf8ByteSize = 6 := rfl
    have hudp : "_udp.local.".utf8ByteSize = 11 := rfl
    rw [NameEnd.suffix?, Service.suffix?] at h
    split_ifs at h
    · cases h
      omega
    · cases h
      omega
    · cases h
      omega
    · rw [h, Option.getD_some]
      omega

/-- **A name takes three bytes for each byte that it is read from**, five more for a suffix, and
what the query takes. -/
theorem utf8ByteSize_of_readName? {query? : Option String} {bs rest : Bytes} {name : String}
    (h : readName? query? bs = some (name, rest)) :
    rest.length < bs.length ∧ name.utf8ByteSize + 3 * rest.length ≤
      3 * bs.length + 5 + (query?.getD "").utf8ByteSize := by
  obtain ⟨labels, ending, suffix, rfl, hsuffix, rfl⟩ := readName?_eq_some_iff.1 h
  have hname := utf8ByteSize_nameText_le labels suffix
  have hend := NameEnd.utf8ByteSize_suffix?_le hsuffix
  have hpos : 0 < ending.bytes.length := by
    cases ending <;> exact Nat.succ_pos _
  rw [List.length_append, List.length_append]
  omega

/-! ### Entries -/

/-- The text of an entry is paid for by its bytes, and its equals sign as a character of three. -/
theorem utf8ByteSize_of_entry? {bs : Bytes} {key value : String}
    (h : entry? bs = some (key, value)) :
    key.utf8ByteSize + value.utf8ByteSize + 3 ≤ 3 * bs.length := by
  obtain ⟨⟨front, rest⟩, hsplit, heq⟩ := Option.map_eq_some_iff.1 h
  cases heq
  have hequals : '='.utf8Size ≤ 3 := by decide
  have hfront := Text.sum_utf8Size_le_sum_weigh hequals front
  have hrest := Text.sum_utf8Size_le_sum_weigh hequals rest
  have hweigh : ((Utf8.lossy bs).map (Text.weigh '=' 3)).sum ≤ 3 * bs.length :=
    Text.sum_weigh_lossy_le le_rfl le_rfl bs
  rw [Text.eq_append_of_splitOnce? hsplit, List.map_append, List.sum_append, List.map_cons,
    List.sum_cons, Text.weigh_self] at hweigh
  rw [Utf8.utf8ByteSize_ofList, Utf8.utf8ByteSize_ofList]
  omega

/-- **Entries weigh at most `k` for each byte that they are read from** if each does for its own
bytes and that of its length. -/
theorem sum_map_entries?_le {weight : String × String → Nat} {k : Nat}
    (h : ∀ content e, entry? content = some e → weight e ≤ k * (content.length + 1)) {bs : Bytes}
    {entries : List (String × String)} (hentries : entries? bs = some entries) :
    (entries.map weight).sum ≤ k * bs.length := by
  fun_induction entries? bs generalizing entries with
  | case1 =>
    cases hentries
    exact Nat.zero_le _
  | case2 rest ih =>
    exact (ih hentries).trans (Nat.mul_le_mul_left k (Nat.le_succ _))
  | case3 => cases hentries
  | case4 b rest hb content rest' hsplit entry entries' hrest hentry ih =>
    cases hentries
    obtain ⟨-, rfl⟩ := Bytes.splitExact_eq_some_iff.1 hsplit
    calc ((entry :: entries').map weight).sum
        = weight entry + (entries'.map weight).sum := List.sum_cons
      _ ≤ k * (content.length + 1) + k * rest'.length :=
          Nat.add_le_add (h content entry hentry) (ih hrest)
      _ = k * (b :: (content ++ rest')).length := by
          rw [List.length_cons, List.length_append]
          ring
  | case5 => cases hentries

/-- Entries take at most eight bytes for each byte that they are read from. -/
theorem length_of_entries? {bs : Bytes} {entries : List (String × String)}
    (h : entries? bs = some entries) :
    (entries.flatMap Layout.encodeEntry).length ≤ 8 * bs.length := by
  rw [List.length_flatMap]
  refine sum_map_entries?_le (fun content e he => ?_) h
  have htext := utf8ByteSize_of_entry? he
  rw [Layout.length_encodeEntry]
  omega

/-! ### Queries and instances -/

/-- A query takes at most three bytes for each of its own and five more. Record type and version,
which weigh nine, pay for these with four to spare. -/
theorem utf8ByteSize_of_query {data rest : Bytes} {high low version : UInt8} {query : String}
    (h : readName? none data = some (query, high :: low :: version :: rest)) :
    rest.length + 4 ≤ data.length ∧ query.utf8ByteSize + 3 * rest.length + 4 ≤ 3 * data.length := by
  obtain ⟨hlt, hquery⟩ := utf8ByteSize_of_readName? h
  have hnone : ((none : Option String).getD "").utf8ByteSize = 0 := rfl
  rw [List.length_cons, List.length_cons, List.length_cons] at hlt
  rw [hnone, List.length_cons, List.length_cons, List.length_cons] at hquery
  omega

/-- An instance takes at most four bytes more than three times those of the answer: whatever the
query brings into the answer is cut off, and a dot with it. -/
theorem utf8ByteSize_of_instance {rest tail : Bytes} {query answer name : String}
    (hanswer : readName? (some query) rest = some (answer, tail))
    (hname : instanceOf? answer query = some name) :
    name.utf8ByteSize ≤ 3 * rest.length + 4 := by
  obtain ⟨-, hanswer⟩ := utf8ByteSize_of_readName? hanswer
  obtain ⟨cut, rfl, hcut⟩ := instanceOf?_eq_some_iff.1 hname
  rw [String.utf8ByteSize_append, Option.getD_some] at hanswer
  omega

/-! ### Bodies -/

theorem NameAnswer.size_layout_le {data : Bytes} {a : NameAnswer}
    (h : NameAnswer.parse? data = some a) : 3 * layout.size a ≤ 25 + 26 * data.length := by
  cases NameAnswer.parse?_eq_some_iff.1 h with
  | @naming rest tail version query answer name hquery hanswer hname =>
    have hquery := utf8ByteSize_of_query hquery
    have hinstance := utf8ByteSize_of_instance hanswer hname
    have hempty : Layout.table.size .empty = 8 := rfl
    simp only [layout, Layout.size_record, Fields.size_cons, Fields.size_nil, Layout.size_text,
      Layout.size_u16, Layout.size_u8, Layout.size_optional_some, hempty]
    omega
  | @listing rest version query entries hquery hentries =>
    have hquery := utf8ByteSize_of_query hquery
    have htable := (Layout.length_flatMap_ofList entries).trans (length_of_entries? hentries)
    simp only [layout, Layout.size_record, Fields.size_cons, Fields.size_nil, Layout.size_text,
      Layout.size_u16, Layout.size_u8, Layout.size_optional_none, Layout.size_table]
    omega

/-- Each name of an announcement takes eight bytes more than its text, as many as the comma in front
of the next one weighs. -/
theorem Announcement.size_layout_le {data : Bytes} {a : Announcement}
    (h : Announcement.parse? data = some a) : 3 * layout.size a ≤ 25 + 26 * data.length := by
  cases data with
  | nil => cases h
  | cons version rest =>
    cases h
    have hweigh : ((Utf8.lossy rest).map (Text.weigh ',' 8)).sum ≤ 8 * rest.length :=
      Text.sum_weigh_lossy_le le_rfl (by decide) rest
    have hnames : (((Text.split ',' (Utf8.lossy rest)).map String.ofList).map Layout.text.size).sum =
        8 + ((Utf8.lossy rest).map (Text.weigh ',' 8)).sum := by
      rw [← Text.sum_map_split, List.map_map]
      refine congrArg List.sum (List.map_congr_left fun part _ => ?_)
      rw [Function.comp_apply, Layout.size_text, Utf8.utf8ByteSize_ofList]
    simp only [layout, Layout.size_record, Fields.size_cons, Fields.size_nil, Layout.size_u8,
      Layout.size_list, hnames, List.length_cons]
    omega

theorem Body.size_layout_le {protocol : UInt8} {data : Bytes} {body : Body}
    (h : Means protocol data body) : 3 * layout.size body ≤ 37 + 26 * data.length := by
  cases h with
  | nothing => decide
  | @nameAnswer _ answer _ hparse =>
    have hcontent := NameAnswer.size_layout_le hparse
    have hsize : layout.size (.nameAnswer answer) = NameAnswer.layout.size answer + 4 := rfl
    omega
  | @announcement _ a _ hparse =>
    have hcontent := Announcement.size_layout_le hparse
    have hsize : layout.size (.announcement a) = Announcement.layout.size a + 4 := rfl
    omega
  | unknown =>
    have hsize : layout.size .raw = 4 := rfl
    omega

/-! ### Responses -/

/-- **Twenty-nine bytes are written at most for three bytes of a record.** -/
theorem Response.size_layout_le {device : Address} {e : Element} {r : Response}
    (hcomplete : family.Complete e) (h : Response.read device e = .ok r) :
    3 * layout.size r ≤ 29 * e.bytes.length := by
  obtain ⟨-, -, body, hmeans, rfl⟩ := Response.read_eq_ok_iff.1 h
  have hheader : e.header.length = 5 := hcomplete.length_header
  have hbody := Body.size_layout_le hmeans
  simp only [layout, Layout.size_record, Fields.size_cons, Fields.size_nil, Layout.size_u8,
    Layout.size_address, Layout.size_bytes, Element.bytes, List.length_append]
  omega

/-- The responses to a query take at most twenty-nine bytes for three bytes of the buffer. -/
theorem Response.sum_size_scan_le (device : Address) (bs : Bytes) :
    3 * ((scan device bs).items.map layout.size).sum ≤ 29 * bs.length := by
  have hscan : ((scan device bs).items.map fun r => 3 * layout.size r).sum ≤ 29 * bs.length :=
    Family.sum_items_scan_le (fun _ _ => size_layout_le) bs
  rw [List.sum_map_mul_left] at hscan
  exact hscan

end Service

end WifiDirect
