import WifiDirect.Replay
import WifiDirect.Proofs.JsonEdits
import WifiDirect.Proofs.JsonText

/-!
# Edited notifications

Recorded notifications may be edited. `Notification.edits_tolerated`: the fields of a notification may
stand in any order and among others, and those that say nothing may be left out, without which the
same notification is read; a field that says something may not, and a text without it writes no
notification. What says nothing is a missing value, and in the forms that carry their fields in a
structure of their own also zero and false.
-/

namespace WifiDirect

open Layout Fields

variable {β : Type}

/-! ### Texts -/

/-- Whatever text writes the value, the notification it is read as is this one, if any. -/
def Json.ReadAs (json : Json) (n? : Option Notification) : Prop :=
  Replay.notification? json.render = n? ∧
    ∀ text, Json.parse? text = some json → Replay.notification? text = n?

theorem Json.readAs_of_ofJson? {json : Json} {n? : Option Notification}
    (h : Notification.layout.ofJson? json = n?) : json.ReadAs n? := by
  have htext : ∀ text, Json.parse? text = some json → Replay.notification? text = n? := by
    intro text hparse
    rw [Replay.notification?, hparse]
    exact h
  exact ⟨htext _ (Json.parse?_render json), htext⟩

/-! ### Fields -/

namespace Notification

/-- What says nothing in the fields of a notification. -/
def omissible : Notification → List Json
  | .deviceFoundWithParams _ | .groupStartedWithParams _ | .provisionCompletedWithParams _ =>
    Json.defaults
  | _ => Json.missing

/-- The fields that a notification cannot do without. -/
def requiredFields : Notification → List String
  | .deviceFound _ | .deviceFoundWithElements _ =>
    ["config_methods", "device_capabilities", "group_capabilities"]
  | .negotiationRequest .. => ["password_id"]
  | .negotiationCompleted _ => ["status"]
  | .groupStarted _ => ["is_group_owner", "frequency_mhz", "is_persistent"]
  | .formationFailure _ => ["failure_reason"]
  | .groupRemoved .. => ["group_interface_name", "is_group_owner"]
  | .provisionCompleted _ => ["is_request", "status", "config_methods"]
  | .invitationReceived _ => ["persistent_network_id", "operating_frequency"]
  | .invitationResult .. => ["status"]
  | .serviceResponse .. => ["update_indicator"]
  | _ => []

/-- What becomes of a notification when the object of its fields, `members` at `name`, is edited. -/
structure ToleratesEdits (n : Notification) (name : String) (members : List (String × Json)) :
    Prop where
  toJson : layout.toJson n = .ofMembers [(name, .ofMembers members)]
  edited : ∀ edited, Json.EditedWithin n.omissible members edited →
    layout.ofJson? (.ofMembers [(name, .ofMembers edited)]) = some n
  required : ∀ key ∈ n.requiredFields, key ∈ members.map Prod.fst ∧
    ∀ others : List (Option String × Json), (∀ m ∈ others, m.1 ≠ some key) →
      layout.ofJson? (.ofMembers [(name, .object others)]) = none

/-- A notification tolerates the edits that its fields tolerate. -/
theorem toleratesEdits_of_record {α : Type} (name : String) (l : Layout α)
    (make : α → Notification) (a : α) {fields : Fields β} {arity : Arity} {parts : α → β}
    {build : β → α} (hl : l = record fields arity parts build)
    (hread : ∀ json, layout.ofJson? (.ofMembers [(name, json)]) = (l.ofJson? json).map make)
    (hwrite : layout.toJson (make a) = .ofMembers [(name, l.toJson a)])
    (hnames : fields.names.Nodup) (hbuild : ∀ a, build (parts a) = a)
    (h : fields.Tolerates (make a).omissible ∧ fields.Requires (make a).requiredFields) :
    (make a).ToleratesEdits name (fields.toMembers (parts a)) where
  toJson := by
    rw [hwrite, hl]
    rfl
  edited edited hedited := by
    rw [hread, hl, ofJson?_record_of_edited h.1 hnames hbuild hedited]
    rfl
  required key hkey := by
    obtain ⟨hname, hfails⟩ := h.2 key hkey
    refine ⟨by rwa [h.1.map_fst], fun others hmissing => ?_⟩
    have hother : layout.ofJson? (.ofMembers [(name, .object others)]) =
        (l.ofJson? (.object others)).map make := hread _
    rw [hother, hl, ofJson?_record_of_lacking hfails hmissing]
    rfl

@[simp] theorem tolerates_optional_clientWords :
    ClientWords.layout.optional.Tolerates Json.defaults := by
  refine tolerates_optional (tolerates_record ?_ (by decide) fun _ => rfl)
    ClientWords.ofJson?_null_layout rfl
  repeat' apply tolerates_cons
  all_goals simp

/-- **Every notification with fields tolerates edits.** -/
theorem exists_toleratesEdits {n : Notification} (hstopped : n ≠ .findStopped)
    (hsuccess : n ≠ .formationSuccess) : ∃ name members, n.ToleratesEdits name members := by
  cases n
  case findStopped => exact absurd rfl hstopped
  case formationSuccess => exact absurd rfl hsuccess
  case' deviceFound s =>
    refine ⟨_, _, toleratesEdits_of_record "DeviceFound" Sighting.layout .deviceFound s
      rfl (fun _ => rfl) rfl (by decide) (fun _ => rfl) ?_⟩
  case' deviceFoundWithElements s =>
    refine ⟨_, _, toleratesEdits_of_record "DeviceFoundWithVendorElements"
      (FullSighting.layoutWith .exact u16 u8 i32) .deviceFoundWithElements s
      rfl (fun _ => rfl) rfl (by decide) (fun _ => rfl) ?_⟩
  case' deviceFoundWithParams s =>
    refine ⟨_, _, toleratesEdits_of_record "DeviceFoundWithParams"
      (FullSighting.layoutWith .atMost (u16.withDefault 0) (u8.withDefault 0) (i32.withDefault 0))
      .deviceFoundWithParams s rfl (fun _ => rfl) rfl (by decide) (fun _ => rfl) ?_⟩
  case' deviceLost peerAddress? =>
    refine ⟨_, _, toleratesEdits_of_record "DeviceLost"
      (fieldsLayout (cons "p2p_device_address" buffer nil)) (fun v => .deviceLost v.1)
      (peerAddress?, ()) rfl (fun _ => rfl) rfl (by decide) (fun _ => rfl) ?_⟩
  case' negotiationRequest sourceAddress? passwordId =>
    refine ⟨_, _, toleratesEdits_of_record "GoNegotiationRequest"
      (fieldsLayout (cons "src_address" buffer <| cons "password_id" i32 nil))
      (fun v => .negotiationRequest v.1 v.2.1) (sourceAddress?, passwordId, ())
      rfl (fun _ => rfl) rfl (by decide) (fun _ => rfl) ?_⟩
  case' negotiationCompleted status =>
    refine ⟨_, _, toleratesEdits_of_record "GoNegotiationCompleted"
      (fieldsLayout (cons "status" i32 nil))
      (fun v => .negotiationCompleted v.1) (status, ())
      rfl (fun _ => rfl) rfl (by decide) (fun _ => rfl) ?_⟩
  case' groupStarted s =>
    refine ⟨_, _, toleratesEdits_of_record "GroupStarted" GroupStart.layout .groupStarted s
      rfl (fun _ => rfl) rfl (by decide) (fun _ => rfl) ?_⟩
  case' groupStartedWithParams s =>
    refine ⟨_, _, toleratesEdits_of_record "GroupStartedWithParams" FullGroupStart.layout
      .groupStartedWithParams s rfl (fun _ => rfl) rfl (by decide) (fun _ => rfl) ?_⟩
  case' formationFailure reason =>
    refine ⟨_, _, toleratesEdits_of_record "GroupFormationFailure"
      (fieldsLayout (cons "failure_reason" text nil))
      (fun v => .formationFailure v.1) (reason, ())
      rfl (fun _ => rfl) rfl (by decide) (fun _ => rfl) ?_⟩
  case' groupRemoved interface isOwner =>
    refine ⟨_, _, toleratesEdits_of_record "GroupRemoved"
      (fieldsLayout (cons "group_interface_name" text <| cons "is_group_owner" bool nil))
      (fun v => .groupRemoved v.1 v.2.1) (interface, isOwner, ())
      rfl (fun _ => rfl) rfl (by decide) (fun _ => rfl) ?_⟩
  case' provisionCompleted r =>
    refine ⟨_, _, toleratesEdits_of_record "ProvisionDiscoveryCompleted" ProvisionReport.layout
      .provisionCompleted r rfl (fun _ => rfl) rfl (by decide) (fun _ => rfl) ?_⟩
  case' provisionCompletedWithParams r =>
    refine ⟨_, _, toleratesEdits_of_record "ProvisionDiscoveryCompletedEvent"
      FullProvisionReport.layout .provisionCompletedWithParams r
      rfl (fun _ => rfl) rfl (by decide) (fun _ => rfl) ?_⟩
  case' invitationReceived i =>
    refine ⟨_, _, toleratesEdits_of_record "InvitationReceived" Invitation.layout
      .invitationReceived i rfl (fun _ => rfl) rfl (by decide) (fun _ => rfl) ?_⟩
  case' invitationResult networkAddress? status =>
    refine ⟨_, _, toleratesEdits_of_record "InvitationResult"
      (fieldsLayout (cons "bssid" buffer <| cons "status" i32 nil))
      (fun v => .invitationResult v.1 v.2.1) (networkAddress?, status, ())
      rfl (fun _ => rfl) rfl (by decide) (fun _ => rfl) ?_⟩
  case' stationAuthorized s =>
    refine ⟨_, _, toleratesEdits_of_record "StaAuthorized" Station.layout .stationAuthorized s
      rfl (fun _ => rfl) rfl (by decide) (fun _ => rfl) ?_⟩
  case' stationDeauthorized s =>
    refine ⟨_, _, toleratesEdits_of_record "StaDeauthorized" Station.layout .stationDeauthorized s
      rfl (fun _ => rfl) rfl (by decide) (fun _ => rfl) ?_⟩
  case' serviceResponse sourceAddress? updateIndicator records? =>
    refine ⟨_, _, toleratesEdits_of_record "ServiceDiscoveryResponse"
      (fieldsLayout (cons "src_address" buffer <| cons "update_indicator" u16 <|
        cons "tlvs" buffer nil))
      (fun v => .serviceResponse v.1 v.2.1 v.2.2.1) (sourceAddress?, updateIndicator, records?, ())
      rfl (fun _ => rfl) rfl (by decide) (fun _ => rfl) ?_⟩
  all_goals
    refine ⟨?_, ?_⟩
    · repeat' apply tolerates_cons
      all_goals simp [omissible]
    · repeat first | exact requires_nil | apply requires_cons rfl | apply requires_cons_of_other

/-- Without one of its words, the addresses of a client are not read. -/
theorem ofJson?_groupStartedWithParams_of_lacking {word : String}
    (hword : word ∈ ["ip_address_client", "ip_address_go", "ip_address_mask"])
    {words others : List (Option String × Json)} (hmissing : ∀ m ∈ words, m.1 ≠ some word)
    (hmem : (some "client_ip_info", .object words) ∈ others) :
    layout.ofJson? (.ofMembers [("GroupStartedWithParams", .object others)]) = none := by
  have hwords : (cons "ip_address_client" u32 <| cons "ip_address_go" u32 <|
      cons "ip_address_mask" u32 nil).Requires
        ["ip_address_client", "ip_address_go", "ip_address_mask"] := by
    repeat first | exact requires_nil | apply requires_cons rfl
  have hclient : ClientWords.layout.ofJson? (.object words) = none :=
    ofJson?_record_of_lacking (hwords word hword).2 hmissing
  have hfield : ClientWords.layout.optional.ofJson? (.object words) = none :=
    congrArg (Option.map some) hclient
  have hrecord : FullGroupStart.layout.ofJson? (.object others) = none := by
    refine ofJson?_record_of_mem ?_ (by decide) hmem
    repeat first | exact failsAt_here hfield | apply failsAt_there
  exact congrArg (Option.map groupStartedWithParams) hrecord

/-- **Edits of recorded notifications.** -/
theorem edits_tolerated :
    (∀ n : Notification, n ≠ .findStopped → n ≠ .formationSuccess → ∃ name members,
      layout.toJson n = .ofMembers [(name, .ofMembers members)] ∧
      (∀ edited, Json.EditedWithin n.omissible members edited →
        (Json.ofMembers [(name, .ofMembers edited)]).ReadAs (some n)) ∧
      ∀ key ∈ n.requiredFields, key ∈ members.map Prod.fst ∧
        ∀ others : List (Option String × Json), (∀ m ∈ others, m.1 ≠ some key) →
          (Json.ofMembers [(name, .object others)]).ReadAs none) ∧
    ∀ word ∈ ["ip_address_client", "ip_address_go", "ip_address_mask"],
      ∀ words others : List (Option String × Json), (∀ m ∈ words, m.1 ≠ some word) →
        (some "client_ip_info", .object words) ∈ others →
        (Json.ofMembers [("GroupStartedWithParams", .object others)]).ReadAs none := by
  refine ⟨fun n hstopped hsuccess => ?_, fun word hword words others hmissing hmem => ?_⟩
  · obtain ⟨name, members, h⟩ := exists_toleratesEdits hstopped hsuccess
    refine ⟨name, members, h.toJson, fun edited hedited => ?_, fun key hkey => ?_⟩
    · exact Json.readAs_of_ofJson? (h.edited edited hedited)
    · obtain ⟨hname, hlacking⟩ := h.required key hkey
      exact ⟨hname, fun others hmissing => Json.readAs_of_ofJson? (hlacking others hmissing)⟩
  · exact Json.readAs_of_ofJson? (ofJson?_groupStartedWithParams_of_lacking hword hmissing hmem)

/-- A group start of which only the addresses of the client are left, these in another order, and one
member more. -/
theorem edits_tolerated_clientWords :
    (Json.ofMembers [("GroupStartedWithParams", .ofMembers [("note", .array []),
      ("client_ip_info", .ofMembers [("ip_address_go", .int 2), ("ip_address_client", .int 1),
        ("ip_address_mask", .int 3)])])]).ReadAs
      (some (.groupStartedWithParams
        ⟨⟨none, false, none, 0, none, none, false⟩, none, false, some ⟨1, 2, 3⟩⟩)) ∧
    (Json.ofMembers [("GoNegotiationCompleted", .object [])]).ReadAs none ∧
    (Json.ofMembers [("GroupStartedWithParams",
      .object [(some "client_ip_info", .object [])])]).ReadAs none := by
  obtain ⟨hedits, hwords⟩ := edits_tolerated
  refine ⟨?_, ?_, hwords "ip_address_go" (by simp) [] _ (by simp) List.mem_cons_self⟩
  · obtain ⟨name, members, hjson, hedited, -⟩ := hedits (.groupStartedWithParams
      ⟨⟨none, false, none, 0, none, none, false⟩, none, false, some ⟨1, 2, 3⟩⟩) (by simp) (by simp)
    obtain ⟨rfl, hmembers⟩ := Prod.mk.inj (List.singleton_inj.1 (Json.ofMembers_injective hjson))
    obtain rfl := Json.ofMembers_injective hmembers
    refine hedited _ ⟨[("group_interface_name", .null), ("is_group_owner", .bool false),
      ("ssid", .null), ("frequency_mhz", .int 0), ("passphrase", .null),
      ("go_device_address", .null), ("go_interface_address", .null), ("is_persistent", .bool false),
      ("is_client_ip_info_present", .bool false)] ++ [("client_ip_info", .ofMembers
        [("ip_address_go", .int 2), ("ip_address_client", .int 1), ("ip_address_mask", .int 3)])],
      ?_, ?_⟩
    · have hwords : (ClientWords.layout.toJson ⟨1, 2, 3⟩).Respelled (.ofMembers
          [("ip_address_go", .int 2), ("ip_address_client", .int 1), ("ip_address_mask", .int 3)]) :=
        .inr ⟨_, _, rfl, rfl, .reordered .unedited (List.Perm.swap _ _ _)⟩
      repeat first
        | exact .nil
        | exact .cons ⟨rfl, hwords⟩ .nil
        | refine .cons ⟨rfl, .inl rfl⟩ ?_
    · refine .inserted (Json.Edited.omitted_front .unedited ?_) ?_ _
      · simp [omissible, Json.defaults]
      · decide
  · obtain ⟨name, members, hjson, -, hrequired⟩ := hedits (.negotiationCompleted 0) (by simp)
      (by simp)
    obtain ⟨rfl, -⟩ := Prod.mk.inj (List.singleton_inj.1 (Json.ofMembers_injective hjson))
    exact (hrequired "status" List.mem_cons_self).2 [] (by simp)

end Notification

end WifiDirect
