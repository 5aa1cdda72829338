import WifiDirect.Proofs.Replacement
import WifiDirect.Service.Body

/-!
# Names of services and of their instances

A name is read exactly if it is labels, each after its length, and an ending that stands for a
suffix (`readName?_eq_some_iff`), and an answer exactly if it asks for instances or for texts
(`NameAnswer.parse?_eq_some_iff`).

`NameAnswer.instance_of_parse?`: the instance is what is left of the name in the answer without as
many bytes as a dot and the query have. What is cut off is the dot and the query where the name ends
in them, as it does behind the pointer to the query; `NameAnswer.instance_of_other_query` is an
answer where something else is cut off.
-/

namespace WifiDirect

/-! ### Cutting a text at a number of bytes -/

namespace Text

theorem sum_utf8Size_eq_zero_iff {cs : List Char} : (cs.map Char.utf8Size).sum = 0 ↔ cs = [] := by
  cases cs with
  | nil => exact iff_of_true rfl rfl
  | cons c cs =>
    have hpos := c.utf8Size_pos
    rw [List.map_cons, List.sum_cons]
    exact iff_of_false (by omega) (List.cons_ne_nil c cs)

theorem takeSize?_zero_eq_some_iff {cs ds : List Char} :
    takeSize? 0 cs = some ds ↔ ∃ rest, cs = ds ++ rest ∧ (ds.map Char.utf8Size).sum = 0 := by
  have hzero : takeSize? 0 cs = some [] := by cases cs <;> rfl
  rw [hzero, Option.some.injEq]
  constructor
  · rintro rfl
    exact ⟨cs, rfl, rfl⟩
  · rintro ⟨rest, -, hsum⟩
    exact (sum_utf8Size_eq_zero_iff.1 hsum).symm

/-- The front of a text that takes a number of bytes. -/
theorem takeSize?_eq_some_iff {size : Nat} {cs ds : List Char} :
    takeSize? size cs = some ds ↔
      ∃ rest, cs = ds ++ rest ∧ (ds.map Char.utf8Size).sum = size := by
  induction cs generalizing size ds with
  | nil =>
    cases size with
    | zero => exact takeSize?_zero_eq_some_iff
    | succ size =>
      refine iff_of_false nofun ?_
      rintro ⟨rest, hnil, hsum⟩
      rw [(List.append_eq_nil_iff.1 hnil.symm).1] at hsum
      cases hsum
  | cons c cs ih =>
    have hpos := c.utf8Size_pos
    cases size with
    | zero => exact takeSize?_zero_eq_some_iff
    | succ size =>
      rw [takeSize?]
      constructor
      · intro h
        split at h
        · rename_i hle
          obtain ⟨front, hfront, rfl⟩ := Option.map_eq_some_iff.1 h
          obtain ⟨rest, rfl, hsum⟩ := ih.1 hfront
          refine ⟨rest, rfl, ?_⟩
          rw [List.map_cons, List.sum_cons]
          omega
        · cases h
      · rintro ⟨rest, hcs, hsum⟩
        cases ds with
        | nil => cases hsum
        | cons d ds =>
          obtain ⟨hc, hcs⟩ := List.cons.inj hcs
          rw [List.map_cons, List.sum_cons, ← hc] at hsum
          have hle : c.utf8Size ≤ size + 1 := by omega
          have hfront : takeSize? (size + 1 - c.utf8Size) cs = some ds :=
            ih.2 ⟨rest, hcs, by omega⟩
          rw [if_pos hle, hfront, hc]
          rfl

/-- What follows the same number of bytes in the same text is the same. -/
theorem append_inj_of_utf8ByteSize {front front' cut cut' : String} (h : front ++ cut = front' ++ cut')
    (hsize : cut.utf8ByteSize = cut'.utf8ByteSize) : front = front' ∧ cut = cut' := by
  have hbytes : Utf8.bytes front ++ Utf8.bytes cut = Utf8.bytes front' ++ Utf8.bytes cut' := by
    rw [Utf8.bytes_eq_encode, Utf8.bytes_eq_encode, Utf8.bytes_eq_encode, Utf8.bytes_eq_encode,
      ← Utf8.encode_append, ← Utf8.encode_append, ← String.toList_append, ← String.toList_append, h]
  rw [Utf8.utf8ByteSize_eq_length_bytes, Utf8.utf8ByteSize_eq_length_bytes] at hsize
  obtain ⟨hfront, hcut⟩ := List.append_inj' hbytes hsize
  exact ⟨Utf8.bytes_injective hfront, Utf8.bytes_injective hcut⟩

end Text

namespace Service

/-! ### Names -/

/-- A label of a name: neither the byte that ends a name nor the byte of a pointer is its length. -/
structure Label where
  content : Bytes
  length_pos : 0 < content.length
  length_lt : content.length < 256
  length_ne : content.length ≠ 0xC0

namespace Label

/-- The bytes of a label: its length and its content. -/
def bytes (l : Label) : Bytes := UInt8.ofNat l.content.length :: l.content

/-- The text of a label. -/
def text (l : Label) : String := Utf8.lossyText l.content

theorem toNat_length (l : Label) : (UInt8.ofNat l.content.length).toNat = l.content.length := by
  rw [UInt8.toNat_ofNat', Nat.mod_eq_of_lt l.length_lt]

theorem length_bytes (l : Label) : l.bytes.length = l.content.length + 1 := rfl

/-- A label is no ending. -/
theorem length_ne_end (l : Label) : UInt8.ofNat l.content.length ≠ endByte := by
  intro h
  have hlength := l.toNat_length
  have hpos := l.length_pos
  have hend : endByte.toNat = 0 := rfl
  rw [h, hend] at hlength
  omega

theorem length_ne_pointer (l : Label) : UInt8.ofNat l.content.length ≠ pointerByte := by
  intro h
  have hlength := l.toNat_length
  rw [h] at hlength
  exact l.length_ne hlength.symm

end Label

/-- How a name ends. -/
inductive NameEnd
  | stop
  | pointer (key : UInt8)

namespace NameEnd

/-- The bytes of an ending. -/
def bytes : NameEnd → Bytes
  | stop => [endByte]
  | pointer key => [pointerByte, key]

/-- The text that an ending stands for. -/
def suffix? (query? : Option String) : NameEnd → Option String
  | stop => some ""
  | pointer key => Service.suffix? query? key

end NameEnd

/-- The text of a name: the labels, each with a dot behind it, and the suffix. -/
def nameText (labels : List Label) (suffix : String) : String :=
  labels.foldr (fun label name => label.text ++ "." ++ name) suffix

@[simp] theorem nameText_nil (suffix : String) : nameText [] suffix = suffix := rfl

@[simp] theorem nameText_cons (label : Label) (labels : List Label) (suffix : String) :
    nameText (label :: labels) suffix = label.text ++ "." ++ nameText labels suffix := rfl

/-- Behind at least one label the suffix follows a dot. -/
theorem nameText_eq_intercalate {labels : List Label} (h : labels ≠ []) (suffix : String) :
    nameText labels suffix = ".".intercalate (labels.map Label.text) ++ "." ++ suffix := by
  induction labels with
  | nil => exact absurd rfl h
  | cons label labels ih =>
    cases labels with
    | nil => rw [nameText_cons, nameText_nil, List.map_cons, List.map_nil,
        String.intercalate_singleton]
    | cons l ls =>
      have hsplit : ".".intercalate ((label :: l :: ls).map Label.text) =
          label.text ++ "." ++ ".".intercalate ((l :: ls).map Label.text) :=
        String.intercalate_cons_cons
      rw [nameText_cons, ih (List.cons_ne_nil l ls), hsplit]
      simp only [String.append_assoc]

section Read
variable {query? : Option String}

theorem readName?_end {ending : NameEnd} {suffix : String}
    (h : ending.suffix? query? = some suffix) (rest : Bytes) :
    readName? query? (ending.bytes ++ rest) = some (suffix, rest) := by
  cases ending with
  | stop =>
    obtain rfl : "" = suffix := Option.some.inj h
    show readName? query? (endByte :: rest) = _
    rw [readName?.eq_def]
    exact if_pos rfl
  | pointer key =>
    have hsuffix : Service.suffix? query? key = some suffix := h
    show readName? query? (pointerByte :: key :: rest) = _
    rw [readName?.eq_def]
    dsimp only
    rw [if_neg (by decide), if_pos rfl, hsuffix]
    rfl

theorem readName?_label (label : Label) {bs rest : Bytes} {name : String}
    (h : readName? query? bs = some (name, rest)) :
    readName? query? (label.bytes ++ bs) = some (label.text ++ "." ++ name, rest) := by
  have hsplit : Bytes.splitExact (UInt8.ofNat label.content.length).toNat (label.content ++ bs) =
      some (label.content, bs) := by
    rw [label.toNat_length]
    exact Bytes.splitExact_append label.content bs
  show readName? query? (UInt8.ofNat label.content.length :: (label.content ++ bs)) = _
  rw [readName?.eq_def]
  dsimp only
  rw [if_neg label.length_ne_end, if_neg label.length_ne_pointer]
  split
  · rename_i hnone
    rw [hsplit] at hnone
    cases hnone
  · rename_i front rest' hsome
    rw [hsplit] at hsome
    obtain ⟨rfl, rfl⟩ := Prod.mk.inj (Option.some.inj hsome)
    rw [h]
    rfl

theorem readName?_of_labels (labels : List Label) {ending : NameEnd} {suffix : String}
    (h : ending.suffix? query? = some suffix) (rest : Bytes) :
    readName? query? (labels.flatMap Label.bytes ++ ending.bytes ++ rest) =
      some (nameText labels suffix, rest) := by
  induction labels with
  | nil => exact readName?_end h rest
  | cons label labels ih =>
    rw [List.flatMap_cons, List.append_assoc, List.append_assoc, ← List.append_assoc _ ending.bytes]
    exact readName?_label label ih

theorem labels_of_readName? {bs rest : Bytes} {name : String}
    (h : readName? query? bs = some (name, rest)) :
    ∃ (labels : List Label) (ending : NameEnd) (suffix : String),
      bs = labels.flatMap Label.bytes ++ ending.bytes ++ rest ∧
        ending.suffix? query? = some suffix ∧ name = nameText labels suffix := by
  fun_induction readName? query? bs generalizing name rest with
  | case1 => cases h
  | case2 bs =>
    cases h
    exact ⟨[], .stop, "", rfl, rfl, rfl⟩
  | case3 => cases h
  | case4 key bs =>
    obtain ⟨_, hsuffix, hname⟩ := Option.map_eq_some_iff.1 h
    cases hname
    exact ⟨[], .pointer key, name, rfl, hsuffix, rfl⟩
  | case5 => cases h
  | case6 => cases h
  | case7 b bs hend hpointer label bs' hsplit name' rest' hread ih =>
    cases h
    obtain ⟨labels, ending, suffix, rfl, hsuffix, rfl⟩ := ih hread
    obtain ⟨hlength, rfl⟩ := Bytes.splitExact_eq_some_iff.1 hsplit
    have hlt : label.length < 256 := hlength ▸ b.toNat_lt
    have hpos : 0 < label.length := by
      rw [hlength]
      refine Nat.pos_of_ne_zero fun hzero => hend ?_
      exact UInt8.toNat.inj hzero
    have hne : label.length ≠ 0xC0 := by
      rw [hlength]
      exact fun heq => hpointer (UInt8.toNat.inj heq)
    have hb : UInt8.ofNat label.length = b := by rw [hlength, UInt8.ofNat_toNat]
    refine ⟨⟨label, hpos, hlt, hne⟩ :: labels, ending, suffix, ?_, hsuffix, rfl⟩
    rw [List.flatMap_cons, Label.bytes, hb, List.cons_append, List.cons_append, List.cons_append,
      List.append_assoc, List.append_assoc, List.append_assoc]

/-- **A name is labels and an ending** that stands for a suffix. -/
theorem readName?_eq_some_iff {bs rest : Bytes} {name : String} :
    readName? query? bs = some (name, rest) ↔
      ∃ (labels : List Label) (ending : NameEnd) (suffix : String),
        bs = labels.flatMap Label.bytes ++ ending.bytes ++ rest ∧
          ending.suffix? query? = some suffix ∧ name = nameText labels suffix := by
  refine ⟨labels_of_readName?, ?_⟩
  rintro ⟨labels, ending, suffix, rfl, hsuffix, rfl⟩
  exact readName?_of_labels labels hsuffix rest

end Read

/-! ### The instance in an answer -/

/-- **The instance is the answer without as many bytes as a dot and the query have.** -/
theorem instanceOf?_eq_some_iff {answer query name : String} :
    instanceOf? answer query = some name ↔
      ∃ cut, answer = name ++ cut ∧ cut.utf8ByteSize = query.utf8ByteSize + 1 := by
  rw [instanceOf?]
  constructor
  · intro h
    split at h
    · rename_i hle
      obtain ⟨front, hfront, rfl⟩ := Option.map_eq_some_iff.1 h
      obtain ⟨rest, hanswer, hsum⟩ := Text.takeSize?_eq_some_iff.1 hfront
      have heq : answer = String.ofList front ++ String.ofList rest := by
        rw [← String.ofList_append, ← hanswer, String.ofList_toList]
      have hsize := congrArg String.utf8ByteSize heq
      rw [String.utf8ByteSize_append, Utf8.utf8ByteSize_ofList front, hsum] at hsize
      exact ⟨String.ofList rest, heq, by omega⟩
    · cases h
  · rintro ⟨cut, rfl, hsize⟩
    have hanswer := String.utf8ByteSize_append (s := name) (t := cut)
    have hfront : Text.takeSize? ((name ++ cut).utf8ByteSize - (query.utf8ByteSize + 1))
        (name ++ cut).toList = some name.toList := by
      refine Text.takeSize?_eq_some_iff.2 ⟨cut.toList, String.toList_append, ?_⟩
      rw [← Utf8.utf8ByteSize_ofList, String.ofList_toList]
      omega
    rw [if_pos (by omega), hfront, Option.map_some, String.ofList_toList]

/-- The instance before a dot and the query. -/
theorem instanceOf?_append (name query : String) :
    instanceOf? (name ++ "." ++ query) query = some name := by
  refine instanceOf?_eq_some_iff.2 ⟨"." ++ query, String.append_assoc, ?_⟩
  rw [String.utf8ByteSize_append, Nat.add_comm]
  rfl

/-! ### Answers -/

/-- What data say that begin with a query: the name of an instance, or the texts of one. -/
inductive NameAnswer.Says : Bytes → NameAnswer → Prop
  | naming {data rest tail : Bytes} {version : UInt8} {query answer name : String}
      (hquery : readName? none data = some (query, 0 :: 12 :: version :: rest))
      (hanswer : readName? (some query) rest = some (answer, tail))
      (hname : instanceOf? answer query = some name) :
      Says data ⟨query, 12, version, some name, .empty⟩
  | listing {data rest : Bytes} {version : UInt8} {query : String} {entries : List (String × String)}
      (hquery : readName? none data = some (query, 0 :: 16 :: version :: rest))
      (hentries : entries? rest = some entries) :
      Says data ⟨query, 16, version, none, .ofList entries⟩

/-- The two bytes of a record type below 256. -/
theorem bytes_of_recordType {high low : UInt8} {n : Nat} (hn : n < 256)
    (h : UInt16.ofNat (Bytes.ofBigEndian [high, low]) = UInt16.ofNat n) :
    high = 0 ∧ low = UInt8.ofNat n := by
  have hhigh : high.toNat < 256 := high.toNat_lt
  have hlow : low.toNat < 256 := low.toNat_lt
  have hnat := congrArg UInt16.toNat h
  rw [Bytes.ofBigEndian_pair, UInt16.toNat_ofNat', UInt16.toNat_ofNat'] at hnat
  have hzero : high.toNat = 0 := by omega
  have heq : low.toNat = n := by omega
  refine ⟨UInt8.toNat.inj hzero, ?_⟩
  rw [← heq, UInt8.ofNat_toNat]

/-- **Which data are an answer**, and to what. -/
theorem NameAnswer.parse?_eq_some_iff {data : Bytes} {answer : NameAnswer} :
    NameAnswer.parse? data = some answer ↔ NameAnswer.Says data answer := by
  constructor
  · intro h
    obtain ⟨⟨query, rest⟩, hquery, h⟩ := Option.bind_eq_some_iff.1 h
    dsimp only at h
    split at h
    swap
    · cases h
    rename_i high low version rest
    split at h
    · rename_i hrecord
      obtain ⟨rfl, rfl⟩ := bytes_of_recordType (n := 12) (by decide) hrecord
      obtain ⟨⟨name, tail⟩, hanswer, h⟩ := Option.bind_eq_some_iff.1 h
      obtain ⟨instanceName, hname, h⟩ := Option.bind_eq_some_iff.1 h
      cases h
      exact .naming hquery hanswer hname
    split at h
    · rename_i hrecord
      obtain ⟨rfl, rfl⟩ := bytes_of_recordType (n := 16) (by decide) hrecord
      obtain ⟨entries, hentries, h⟩ := Option.bind_eq_some_iff.1 h
      cases h
      exact .listing hquery hentries
    · cases h
  · intro h
    cases h with
    | naming hquery hanswer hname =>
      rw [NameAnswer.parse?, hquery, Option.bind_eq_bind, Option.bind_some]
      dsimp only
      rw [if_pos (by decide), hanswer, Option.bind_eq_bind, Option.bind_some]
      dsimp only
      rw [hname]
      rfl
    | listing hquery hentries =>
      rw [NameAnswer.parse?, hquery, Option.bind_eq_bind, Option.bind_some]
      dsimp only
      rw [if_neg (by decide), if_pos (by decide), hentries]
      rfl

/-- **What an answer for instances says**: the instance is the name in the answer without what
stands at its end, which takes as many bytes as a dot and the query. It is a dot and the query
exactly if the name in the answer ends in them, as one does that is labels and the pointer to the
query. -/
theorem NameAnswer.instance_of_parse? {data : Bytes} {a : NameAnswer}
    (h : NameAnswer.parse? data = some a) (hrecord : a.recordType = 12) :
    ∃ rest tail answer name cut,
      readName? none data = some (a.queryName, 0 :: 12 :: a.version :: rest) ∧
        readName? (some a.queryName) rest = some (answer, tail) ∧
        a.instanceName? = some name ∧ answer = name ++ cut ∧
        cut.utf8ByteSize = a.queryName.utf8ByteSize + 1 ∧
        (answer = name ++ "." ++ a.queryName ↔ ∃ front, answer = front ++ "." ++ a.queryName) ∧
        ∀ labels : List Label, labels ≠ [] →
          rest = labels.flatMap Label.bytes ++ [pointerByte, queryKey] ++ tail →
            answer = name ++ "." ++ a.queryName := by
  cases NameAnswer.parse?_eq_some_iff.1 h with
  | listing => cases hrecord
  | @naming rest tail version query answer name hquery hanswer hname =>
    obtain ⟨cut, hcut, hsize⟩ := instanceOf?_eq_some_iff.1 hname
    have hends : (∃ front, answer = front ++ "." ++ query) → answer = name ++ "." ++ query := by
      rintro ⟨front, hfront⟩
      have hdot : ("." ++ query).utf8ByteSize = query.utf8ByteSize + 1 := by
        rw [String.utf8ByteSize_append, Nat.add_comm]
        rfl
      rw [hcut, String.append_assoc] at hfront
      have hfound := (Text.append_inj_of_utf8ByteSize hfront (hsize.trans hdot.symm)).2
      rw [hcut, hfound, String.append_assoc]
    refine ⟨rest, tail, answer, name, cut, hquery, hanswer, rfl, hcut, hsize,
      ⟨fun heq => ⟨name, heq⟩, hends⟩, fun labels hne hrest => hends ?_⟩
    have hpointer : (NameEnd.pointer queryKey).suffix? (some query) = some query := rfl
    have hread : readName? (some query) rest = some (nameText labels query, tail) := by
      rw [hrest]
      exact readName?_of_labels labels hpointer tail
    rw [hread] at hanswer
    obtain ⟨rfl, -⟩ := Prod.mk.inj (Option.some.inj hanswer)
    exact ⟨_, nameText_eq_intercalate hne query⟩

/-- An answer that names a printer behind the pointer to the query. -/
theorem NameAnswer.instance_of_parse?_printer :
    NameAnswer.parse? [4, 95, 105, 112, 112, 192, 12, 0, 12, 1, 9, 77, 121, 80, 114, 105, 110, 116,
        101, 114, 192, 39] = some ⟨"_ipp._tcp.local.", 12, 1, some "MyPrinter", .empty⟩ ∧
      ∃ rest tail answer cut,
        readName? none [4, 95, 105, 112, 112, 192, 12, 0, 12, 1, 9, 77, 121, 80, 114, 105, 110, 116,
          101, 114, 192, 39] = some ("_ipp._tcp.local.", 0 :: 12 :: 1 :: rest) ∧
        readName? (some "_ipp._tcp.local.") rest = some (answer, tail) ∧
        answer = "MyPrinter" ++ cut ∧ cut.utf8ByteSize = 17 := by
  have hparse : NameAnswer.parse? [4, 95, 105, 112, 112, 192, 12, 0, 12, 1, 9, 77, 121, 80, 114,
      105, 110, 116, 101, 114, 192, 39] =
        some ⟨"_ipp._tcp.local.", 12, 1, some "MyPrinter", .empty⟩ := by decide +kernel
  obtain ⟨rest, tail, answer, name, cut, hquery, hanswer, hname, hcut, hsize, -⟩ :=
    NameAnswer.instance_of_parse? hparse rfl
  obtain rfl : "MyPrinter" = name := Option.some.inj hname
  exact ⟨hparse, rest, tail, answer, cut, hquery, hanswer, hcut, hsize⟩

/-- **An instance of another service** is named by an answer whose name does not end in a dot and
the query but takes up as many bytes. -/
theorem NameAnswer.instance_of_other_query :
    NameAnswer.parse? [4, 95, 105, 112, 112, 192, 12, 0, 12, 1, 9, 77, 121, 80, 114, 105, 110, 116,
        101, 114, 4, 95, 105, 112, 112, 192, 28] =
      some ⟨"_ipp._tcp.local.", 12, 1, some "MyPrinter", .empty⟩ ∧
    readName? none [4, 95, 105, 112, 112, 192, 12, 0, 12, 1, 9, 77, 121, 80, 114, 105, 110, 116,
        101, 114, 4, 95, 105, 112, 112, 192, 28] =
      some ("_ipp._tcp.local.", [0, 12, 1, 9, 77, 121, 80, 114, 105, 110, 116, 101, 114, 4, 95, 105,
        112, 112, 192, 28]) ∧
    readName? (some "_ipp._tcp.local.") [9, 77, 121, 80, 114, 105, 110, 116, 101, 114, 4, 95, 105,
        112, 112, 192, 28] = some ("MyPrinter._ipp._udp.local.", []) ∧
    "MyPrinter._ipp._udp.local." ≠ "MyPrinter" ++ "." ++ "_ipp._tcp.local." := by
  refine ⟨by decide +kernel, by decide +kernel, by decide +kernel, by decide⟩

end Service

end WifiDirect
