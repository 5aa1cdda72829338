import WifiDirect.Proofs.Elements
import WifiDirect.Service.Response

/-!
# Buffers that are cut

`Family.scans_of_cut`: what is read of the front of a buffer is the beginning of what is read of the
whole buffer, for service records and for elements of vendors, wherever the buffer is cut. Where an
element ends, the two parts are read as the whole is.

The first elements of the front are those first elements of the buffer that end by the cut
(`Family.isPrefix_elements_split_take_iff`), so an element through which the cut goes is none of the
front's, and neither is one that the bytes left of it would make up.
-/

namespace WifiDirect

namespace Family

variable {f : Family} {bs : Bytes} {k : Nat} {ι σ : Type}

/-- A scan reaches an offset if the first elements of the buffer end there. -/
def Reaches (f : Family) (bs : Bytes) (k : Nat) : Prop :=
  ∃ front, front <+: (f.split bs).elements ∧ (front.flatMap Element.bytes).length = k

/-- The end of complete elements at the front of a buffer is reached. -/
theorem reaches_length (front : List Element) (h : ∀ e ∈ front, f.Complete e) (rest : Bytes) :
    f.Reaches (front.flatMap Element.bytes ++ rest) (front.flatMap Element.bytes).length :=
  ⟨front, isPrefix_elements_split h (List.prefix_append _ _), rfl⟩

/-- **What a cut leaves**: the elements that end by it. -/
theorem isPrefix_elements_split_take_iff {front : List Element} :
    front <+: (f.split (bs.take k)).elements ↔
      front <+: (f.split bs).elements ∧ (front.flatMap Element.bytes).length ≤ k := by
  rw [isPrefix_elements_split_iff, isPrefix_elements_split_iff, List.prefix_take_iff, and_assoc]

theorem items_scan_take_isPrefix (f : Family) (read : Element → Except σ ι) (bs : Bytes) (k : Nat) :
    (f.scan read (bs.take k)).items <+: (f.scan read bs).items := by
  have helements : (f.split (bs.take k)).elements <+: (f.split bs).elements :=
    (isPrefix_elements_split_take_iff.1 List.prefix_rfl).1
  rw [items_scan, items_scan]
  exact helements.filterMap _

/-- **At the end of an element a buffer may be cut in two** for reading. -/
theorem Reaches.items_scan_eq (h : f.Reaches bs k) (read : Element → Except σ ι) :
    (f.scan read bs).items =
      (f.scan read (bs.take k)).items ++ (f.scan read (bs.drop k)).items := by
  obtain ⟨front, hfront, rfl⟩ := h
  obtain ⟨hcomplete, rest, rfl⟩ := isPrefix_elements_split_iff.1 hfront
  have hwhole := items_scan_append hcomplete read []
  rw [List.append_nil, (Stops.nothingLeft (f := f)).items_scan, List.append_nil] at hwhole
  rw [List.take_left, List.drop_left, hwhole, items_scan_append hcomplete]

/-- **A buffer may be cut anywhere, and in two where an element ends.** What is read of the front is
the beginning of what is read of the whole, and if the cut is where an element ends, what is read of
the back is the remainder. -/
theorem scans_of_cut (device : Address) (bs : Bytes) (k : Nat) :
    (Service.Response.scan device (bs.take k)).items <+: (Service.Response.scan device bs).items ∧
      (InformationElement.scan (bs.take k)).items <+: (InformationElement.scan bs).items ∧
      (Service.family.Reaches bs k →
        (Service.Response.scan device bs).items =
          (Service.Response.scan device (bs.take k)).items ++
            (Service.Response.scan device (bs.drop k)).items) ∧
      (InformationElement.family.Reaches bs k →
        (InformationElement.scan bs).items =
          (InformationElement.scan (bs.take k)).items ++
            (InformationElement.scan (bs.drop k)).items) :=
  ⟨items_scan_take_isPrefix _ _ bs k, items_scan_take_isPrefix _ _ bs k,
    fun h => h.items_scan_eq _, fun h => h.items_scan_eq _⟩

/-- Bytes that are two records, and four elements of which two are a vendor's. -/
theorem scans_of_cut_five :
    Service.family.Reaches [3, 0, 221, 1, 0, 4, 0, 221, 2, 0, 65, 9] 5 ∧
      InformationElement.family.Reaches [3, 0, 221, 1, 0, 4, 0, 221, 2, 0, 65, 9] 5 ∧
      (Service.Response.scan .zero [3, 0, 221, 1, 0, 4, 0, 221, 2, 0, 65, 9]).items =
        [⟨221, 0, 1, .zero, [], .raw⟩] ++ [⟨221, 0, 2, .zero, [65], .raw⟩] ∧
      (InformationElement.scan [3, 0, 221, 1, 0, 4, 0, 221, 2, 0, 65, 9]).items =
        [⟨221, none, [0]⟩] ++ [⟨221, none, [0, 65]⟩] := by
  have hrecord : Service.family.Reaches [3, 0, 221, 1, 0, 4, 0, 221, 2, 0, 65, 9] 5 :=
    reaches_length [⟨[3, 0, 221, 1, 0], []⟩] (List.forall_mem_singleton.2 ⟨rfl, rfl⟩)
      [4, 0, 221, 2, 0, 65, 9]
  have helements : InformationElement.family.Reaches [3, 0, 221, 1, 0, 4, 0, 221, 2, 0, 65, 9] 5 :=
    reaches_length [⟨[3, 0], []⟩, ⟨[221, 1], [0]⟩]
      (List.forall_mem_cons.2 ⟨⟨rfl, rfl⟩, List.forall_mem_singleton.2 ⟨rfl, rfl⟩⟩)
      [4, 0, 221, 2, 0, 65, 9]
  obtain ⟨-, -, hresponses, hkept⟩ :=
    scans_of_cut .zero [3, 0, 221, 1, 0, 4, 0, 221, 2, 0, 65, 9] 5
  refine ⟨hrecord, helements, (hresponses hrecord).trans ?_, (hkept helements).trans ?_⟩
  · decide +kernel
  · decide +kernel

end Family

end WifiDirect
