import WifiDirect.Proofs.Decoding
import WifiDirect.Proofs.ServiceSizes

/-!
# How much decoding lets a notification grow

`Notification.yields_size_decode`: an event takes at most twenty-nine bytes for three bytes of the
notification that it is decoded from. Most of a notification is written as it was; a network name
may double, elements of vendors and service records grow by what stands around each of them.
-/

namespace WifiDirect

/-! ### Texts of bytes -/

theorem Utf8.utf8ByteSize_of_ascii {cs : List Char} (h : ∀ c ∈ cs, c.toNat < 0x80) :
    (String.ofList cs).utf8ByteSize = cs.length := by
  rw [utf8ByteSize_eq_length_bytes, bytes_eq_encode, String.toList_ofList, length_encode_of_ascii h]

theorem Bytes.toNat_lt_of_mem_toHex {bs : Bytes} {c : Char} (h : c ∈ toHex bs) :
    c.toNat < 0x80 := by
  obtain ⟨n, hn, rfl⟩ := mem_toHex h
  exact toNat_digitChar_lt hn

/-- A network name takes at most two bytes for each of its bytes. -/
theorem utf8ByteSize_networkNameText_le (bs : Bytes) :
    (networkNameText bs).utf8ByteSize ≤ 2 * bs.length := by
  rw [networkNameText]
  split
  · rename_i s hs
    rw [Utf8.utf8ByteSize_eq_length_bytes, ← Utf8.text_eq_ok_iff.1 hs]
    omega
  · rw [Utf8.utf8ByteSize_of_ascii fun _ => Bytes.toNat_lt_of_mem_toHex, Bytes.length_toHex]

theorem toNat_lt_of_isDigit {c : Char} (h : c.isDigit) : c.toNat < 0x80 := by
  rw [Char.isDigit, Bool.and_eq_true, decide_eq_true_eq, decide_eq_true_eq] at h
  have hval : c.toNat ≤ '9'.toNat := h.2
  exact hval.trans_lt (by decide)

/-- The characters of hexadecimal digits are below 128 in upper case too. -/
theorem toNat_lt_of_mem_toHex_toUpper {bs : Bytes} {c : Char}
    (h : c ∈ bs.toHex.map Char.toUpper) : c.toNat < 0x80 := by
  have htable : ∀ n < 16, (Nat.digitChar n).toUpper.toNat < 0x80 := by decide
  obtain ⟨digit, hdigit, rfl⟩ := List.mem_map.1 h
  obtain ⟨n, hn, rfl⟩ := Bytes.mem_toHex hdigit
  exact htable n hn

theorem toNat_lt_of_mem_toDigits {n : Nat} {c : Char} (h : c ∈ Nat.toDigits 10 n) :
    c.toNat < 0x80 :=
  toNat_lt_of_isDigit (Nat.isDigit_of_mem_toDigits (by decide) (by decide) h)

/-- Two bytes are a number of at most five digits. -/
theorem length_toDigits_ofBigEndian_le (a b : UInt8) :
    (Nat.toDigits 10 (Bytes.ofBigEndian [a, b])).length ≤ 5 :=
  (Nat.length_toDigits_le_iff (by decide) (by decide)).2
    ((Bytes.ofBigEndian_pair_lt a b).trans (by decide))

/-- A device type is two numbers and eight hexadecimal digits between them. -/
theorem yields_utf8ByteSize_deviceTypeText (bs : Bytes) :
    Yields (fun s => s.utf8ByteSize ≤ 20) (deviceTypeText bs) := by
  intro s hs
  unfold deviceTypeText at hs
  split at hs
  · rename_i c1 c2 o1 o2 o3 o4 s1 s2
    obtain rfl := Except.ok.inj hs
    have hcategory := length_toDigits_ofBigEndian_le c1 c2
    have hsubcategory := length_toDigits_ofBigEndian_le s1 s2
    have howner : ((Bytes.toHex [o1, o2, o3, o4]).map Char.toUpper).length = 8 := rfl
    rw [Utf8.utf8ByteSize_of_ascii]
    · rw [List.length_append, List.length_cons, List.length_append, List.length_cons, howner]
      omega
    · intro c hc
      simp only [List.mem_append, List.mem_cons] at hc
      rcases hc with (hc | rfl | hc) | rfl | hc
      · exact toNat_lt_of_mem_toDigits hc
      · decide
      · exact toNat_lt_of_mem_toHex_toUpper hc
      · decide
      · exact toNat_lt_of_mem_toDigits hc
  · cases hs

/-! ### Reports -/

theorem yields_require (field : Field) (buffer? : Option Bytes) :
    Yields (fun _ => Layout.buffer.size buffer? = 15) (Address.require field buffer?) := by
  intro a ha
  rw [(checked_require field buffer?).yields a ha, Layout.size_buffer_some, a.length_octets]

theorem FullSighting.sum_size_scanElements_le (s : FullSighting) :
    (s.scanElements.items.map InformationElement.layout.size).sum ≤
      5 * Layout.buffer.size s.vendorElements? := by
  rw [scanElements]
  cases s.vendorElements? with
  | none => exact Nat.zero_le _
  | some bs =>
    have hscan := InformationElement.sum_size_scan_le bs
    rw [Layout.size_buffer_some]
    dsimp only
    omega

/-- A device takes what its name and the elements of vendors take, and little else. -/
theorem FullSighting.yields_size_device (s : FullSighting) :
    Yields (fun found => Peer.layout.size found.1 ≤ 81 + (Layout.optional .text).size s.deviceName? +
      5 * Layout.buffer.size s.vendorElements?) s.device := by
  refine .bind_of_forall fun _ => .bind_of_forall fun address => .bind_of_forall fun typeBytes =>
    (checked_requireField _ _).yields.bind fun name hname =>
      (yields_utf8ByteSize_deviceTypeText _).bind fun deviceType htype => .ok ?_
  have helements := s.sum_size_scanElements_le
  refine (Peer.size_layout_le _).trans ?_
  rw [hname, Layout.size_optional_some, Layout.size_text]
  dsimp only
  omega

/-- A group takes what its names and its passphrase take, of which that of the network may double. -/
theorem FullGroupStart.yields_size_group (s : FullGroupStart) :
    Yields (fun g => Group.layout.size g ≤ 117 + (Layout.optional .text).size s.interface? +
      2 * Layout.buffer.size s.ssid? + (Layout.optional .text).size s.passphrase?) s.group := by
  refine (checked_requireField _ _).yields.bind fun interface hinterface =>
    (checked_requireField _ _).yields.bind fun ssid hssid => .bind_of_forall fun owner => .ok ?_
  have hname := utf8ByteSize_networkNameText_le ssid
  refine (Group.size_layout_le _).trans ?_
  rw [hssid, (Option.filter_eq_some_iff.1 hinterface).1, Layout.size_buffer_some]
  dsimp only
  rw [Layout.size_optional_some Layout.text (networkNameText ssid), Layout.size_text,
    Peer.size_layout_ofAddress, List.map_nil, List.sum_nil]
  omega

/-- A provisioning takes what its number and the name of the interface take. -/
theorem FullProvisionReport.yields_size_provision (r : FullProvisionReport) :
    Yields (fun p => Provision.layout.size p ≤ 73 + (Layout.optional .text).size r.pin? +
      (Layout.optional .text).size r.groupInterface?) r.provision := by
  -- whatever the outcome, a number that it shows is the one of the report
  have hsize : ∀ (address : Address) (outcome : Outcome),
      (∀ pin, outcome = .showPin pin → pin = r.pin?.getD "") →
        Provision.layout.size ⟨.ofAddress address, outcome, r.groupInterface?⟩ ≤
          73 + (Layout.optional .text).size r.pin? +
            (Layout.optional .text).size r.groupInterface? := by
    intro address outcome hpin
    have hshown : (r.pin?.getD "").utf8ByteSize ≤ (Layout.optional .text).size r.pin? := by
      cases r.pin? with
      | none => exact Nat.zero_le _
      | some pin =>
        rw [Option.getD_some, Layout.size_optional_some, Layout.size_text]
        omega
    have houtcome := Outcome.size_layout_le fun pin h => (hpin pin h).symm ▸ hshown
    simp only [Provision.layout, Layout.size_record, Fields.size_cons, Fields.size_nil,
      Peer.size_layout_ofAddress]
    omega
  have hmethods : ∀ pin, Yields (fun o : Outcome => ∀ shown, o = .showPin shown → shown = pin)
      (Outcome.ofMethods r.methods r.isRequest pin) := by
    intro pin
    unfold Outcome.ofMethods
    split_ifs
    · exact .ok nofun
    · exact .ok nofun
    · exact .ok nofun
    · refine .ok fun shown h => ?_
      cases h
      rfl
    · exact nofun
  refine .bind_of_forall fun address => .bind_of_forall fun failure? => ?_
  cases failure? with
  | some reason => exact .ok (hsize address _ nofun)
  | none => exact ((hmethods _).dropping _).bind fun outcome hpin => .ok (hsize address outcome hpin)

theorem Invitation.yields_size_group (i : Invitation) :
    Yields (fun g => Group.layout.size g ≤ 181 ∧ Layout.buffer.size i.sourceAddress? = 15)
      i.group := by
  refine (yields_require _ _).bind fun client hclient => .bind_of_forall fun owner => .ok ⟨?_, hclient⟩
  refine (Group.size_layout_le _).trans ?_
  simp only [Layout.size_optional_none, Peer.size_layout_ofAddress, List.map_cons, List.map_nil,
    List.sum_cons, List.sum_nil]
  decide

theorem Station.yields_size_device (s : Station) :
    Yields (fun p => Peer.layout.size p = 61 ∧ Layout.buffer.size s.peerAddress? = 15) s.device := by
  refine (yields_require _ _).bind fun address haddress => ?_
  by_cases hzero : address.isZero
  · rw [if_pos hzero]
    exact .bind_of_forall fun source => .ok ⟨Peer.size_layout_ofAddress source, haddress⟩
  · rw [if_neg hzero]
    exact .ok ⟨Peer.size_layout_ofAddress address, haddress⟩

/-! ### Notifications -/

/-- The bound for a report in the long form, which holds without the parts that the short form lacks. -/
theorem FullSighting.yields_size_decode (s : FullSighting) :
    Yields (fun decoded => 3 * Event.layout.size decoded.event ≤ 29 * (layout.size s + 2)) s.decode := by
  refine (s.yields_size_device.dropping _).bind fun found h => .ok ?_
  have hname := Layout.size_optional_pos Layout.text s.deviceName?
  rw [Event.size_layout, Event.contentSize, size_layout, Sighting.size_layout]
  omega

theorem FullGroupStart.yields_size_decode (s : FullGroupStart) :
    Yields (fun decoded => 3 * Event.layout.size decoded.event ≤ 29 * (layout.size s + 1)) s.decode := by
  refine (s.yields_size_group.dropping _).bind fun group h => .ok ?_
  have hinterface := Layout.size_optional_pos Layout.text s.interface?
  have hssid := Layout.size_buffer_pos s.ssid?
  have hpassphrase := Layout.size_optional_pos Layout.text s.passphrase?
  have howner := Layout.size_buffer_pos s.ownerAddress?
  have haddress := Layout.size_buffer_pos s.interfaceAddress?
  have hwords := Layout.size_optional_pos ClientWords.layout s.clientWords?
  rw [Decoded.ofEvent, Event.size_layout, Event.contentSize, size_layout, GroupStart.size_layout]
  omega

theorem FullProvisionReport.yields_size_decode (r : FullProvisionReport) :
    Yields (fun decoded => 3 * Event.layout.size decoded.event ≤ 29 * (layout.size r + 3)) r.decode := by
  refine r.yields_size_provision.bind fun provision h => .ok ?_
  have hpin := Layout.size_optional_pos Layout.text r.pin?
  have hpeer := Layout.size_buffer_pos r.peerAddress?
  have hinterface := Layout.size_optional_pos Layout.text r.groupInterface?
  rw [Decoded.ofEvent, Event.size_layout, Event.contentSize, size_layout, ProvisionReport.size_layout]
  omega

/-- **An event takes at most twenty-nine bytes for three bytes of its notification.** -/
theorem Notification.yields_size_decode (c : Notification) :
    Yields (fun decoded => 3 * Event.layout.size decoded.event ≤ 29 * layout.size c) c.decode := by
  rw [size_layout, contentSize.eq_def]
  cases c with
  | deviceFound s =>
    refine s.full.yields_size_decode.mono fun decoded h => ?_
    rw [s.size_layout_full] at h
    exact h
  | deviceFoundWithElements s | deviceFoundWithParams s =>
    refine s.yields_size_decode.mono fun decoded h => ?_
    dsimp only
    omega
  | deviceLost peerAddress? =>
    refine ((yields_require _ _).dropping _).bind fun address haddress => .ok ?_
    rw [Decoded.ofEvent, Event.size_layout, Event.contentSize, Peer.size_layout_ofAddress]
    dsimp only
    omega
  | findStopped | formationSuccess => exact .ok (by decide)
  | negotiationRequest sourceAddress? passwordId =>
    refine ((yields_require _ _).dropping _).bind fun device hdevice => .ok ?_
    rw [Decoded.ofEvent, Event.size_layout, Event.contentSize, NegotiationRequest.size_layout]
    dsimp only
    omega
  | negotiationCompleted code =>
    refine .bind_of_forall fun status => .ok ?_
    rw [Decoded.ofEvent, Event.size_layout]
    by_cases hsuccess : status = .success
    · rw [if_pos hsuccess, Event.contentSize]
      omega
    · rw [if_neg hsuccess, Event.contentSize, GroupStatus.size_layout]
      omega
  | groupStarted s =>
    refine s.full.yields_size_decode.mono fun decoded h => ?_
    rw [s.size_layout_full] at h
    exact h
  | groupStartedWithParams s =>
    refine s.yields_size_decode.mono fun decoded h => ?_
    dsimp only
    omega
  | formationFailure reason =>
    refine .ok ?_
    rw [Decoded.ofEvent, Event.size_layout, Event.contentSize]
    dsimp only
    omega
  | groupRemoved interface isOwner =>
    refine .ok ?_
    rw [Decoded.ofEvent, Event.size_layout, Event.contentSize, RemovedGroup.size_layout]
    dsimp only
    omega
  | provisionCompleted r =>
    refine r.full.yields_size_decode.mono fun decoded h => ?_
    rw [r.size_layout_full] at h
    exact h
  | provisionCompletedWithParams r =>
    refine r.yields_size_decode.mono fun decoded h => ?_
    dsimp only
    omega
  | invitationReceived i =>
    refine (i.yields_size_group.dropping _).bind fun group h => .ok ?_
    rw [Decoded.ofEvent, Event.size_layout, Event.contentSize]
    dsimp only
    rw [Invitation.size_layout]
    omega
  | invitationResult networkAddress? code =>
    refine .bind_of_forall fun status => .ok ?_
    rw [Decoded.ofEvent, Event.size_layout, Event.contentSize, GroupStatus.size_layout]
    dsimp only
    omega
  | stationAuthorized s | stationDeauthorized s =>
    refine (s.yields_size_device.dropping _).bind fun device h => .ok ?_
    rw [Decoded.ofEvent, Event.size_layout, Event.contentSize]
    dsimp only
    rw [Station.size_layout]
    omega
  | serviceResponse sourceAddress? updateIndicator records? =>
    refine .bind_of_forall fun device => .ok ?_
    have hscan := Service.Response.sum_size_scan_le device (records?.getD [])
    have hrecords : (records?.getD []).length ≤ Layout.buffer.size records? := by
      cases records? with
      | none => exact Nat.zero_le _
      | some bs =>
        rw [Option.getD_some, Layout.size_buffer_some]
        omega
    rw [Event.size_layout, Event.contentSize, Layout.size_list]
    dsimp only
    omega

end WifiDirect
