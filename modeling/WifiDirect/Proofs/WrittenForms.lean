import WifiDirect.Proofs.CompositeLaws
import WifiDirect.Event
import WifiDirect.Notification

/-!
# The written forms of notifications and events

`Notification.coherent_layout`: a notification is read back from its written form, and that is the
only form that it is read from. `Event.coherent_layout`: so is an event, which may be read from
other forms too, because addresses and tables may, but from none that is shorter.

Each layout is put together from its parts as its definition is.
-/

namespace WifiDirect

open Layout Fields Case

variable {R : Bytes → Bytes → Prop} [Piecewise R]

/-! ### Notifications -/

theorem coherent_buffer : buffer.Coherent R :=
  coherent_optional coherent_bytes

theorem Sighting.coherent_layout : Sighting.layout.Coherent R :=
  coherent_record
    (coherent_cons coherent_buffer <| coherent_cons coherent_buffer <|
      coherent_cons coherent_buffer <| coherent_cons (coherent_optional coherent_text) <|
      coherent_cons coherent_u16 <| coherent_cons coherent_u8 <| coherent_cons coherent_i32 <|
      coherent_cons coherent_buffer coherent_nil)
    (fun _ => rfl) (fun _ => rfl)

theorem FullSighting.coherent_layoutWith {arity : Arity} {methods : Layout UInt16}
    {deviceCapability : Layout UInt8} {groupCapability : Layout Int32}
    (hmethods : methods.Coherent R) (hdevice : deviceCapability.Coherent R)
    (hgroup : groupCapability.Coherent R) :
    (layoutWith arity methods deviceCapability groupCapability).Coherent R :=
  coherent_record
    (coherent_cons coherent_buffer <| coherent_cons coherent_buffer <|
      coherent_cons coherent_buffer <| coherent_cons (coherent_optional coherent_text) <|
      coherent_cons hmethods <| coherent_cons hdevice <| coherent_cons hgroup <|
      coherent_cons coherent_buffer <| coherent_cons coherent_buffer <|
      coherent_cons coherent_buffer coherent_nil)
    (fun _ => rfl) (fun _ => rfl)

theorem ClientWords.coherent_layout : ClientWords.layout.Coherent R :=
  coherent_record
    (coherent_cons coherent_u32 <| coherent_cons coherent_u32 <|
      coherent_cons coherent_u32 coherent_nil)
    (fun _ => rfl) (fun _ => rfl)

theorem GroupStart.coherent_layout : GroupStart.layout.Coherent R :=
  coherent_record
    (coherent_cons (coherent_optional coherent_text) <| coherent_cons coherent_bool <|
      coherent_cons coherent_buffer <| coherent_cons coherent_i32 <|
      coherent_cons (coherent_optional coherent_text) <| coherent_cons coherent_buffer <|
      coherent_cons coherent_bool coherent_nil)
    (fun _ => rfl) (fun _ => rfl)

theorem FullGroupStart.coherent_layout : FullGroupStart.layout.Coherent R :=
  coherent_record
    (coherent_cons (coherent_optional coherent_text) <|
      coherent_cons (coherent_withDefault coherent_bool false) <| coherent_cons coherent_buffer <|
      coherent_cons (coherent_withDefault coherent_i32 0) <|
      coherent_cons (coherent_optional coherent_text) <| coherent_cons coherent_buffer <|
      coherent_cons coherent_buffer <| coherent_cons (coherent_withDefault coherent_bool false) <|
      coherent_cons (coherent_withDefault coherent_bool false) <|
      coherent_cons (coherent_optional ClientWords.coherent_layout) coherent_nil)
    (fun _ => rfl) (fun _ => rfl)

theorem ProvisionReport.coherent_layout : ProvisionReport.layout.Coherent R :=
  coherent_record
    (coherent_cons coherent_buffer <| coherent_cons coherent_bool <| coherent_cons coherent_u8 <|
      coherent_cons coherent_u16 <| coherent_cons (coherent_optional coherent_text) coherent_nil)
    (fun _ => rfl) (fun _ => rfl)

theorem FullProvisionReport.coherent_layout : FullProvisionReport.layout.Coherent R :=
  coherent_record
    (coherent_cons coherent_buffer <| coherent_cons (coherent_withDefault coherent_bool false) <|
      coherent_cons (coherent_withDefault coherent_u8 0) <|
      coherent_cons (coherent_withDefault coherent_u16 0) <|
      coherent_cons (coherent_optional coherent_text) <|
      coherent_cons (coherent_optional coherent_text) coherent_nil)
    (fun _ => rfl) (fun _ => rfl)

theorem Invitation.coherent_layout : Invitation.layout.Coherent R :=
  coherent_record
    (coherent_cons coherent_buffer <| coherent_cons coherent_buffer <|
      coherent_cons coherent_buffer <| coherent_cons coherent_i32 <|
      coherent_cons coherent_i32 coherent_nil)
    (fun _ => rfl) (fun _ => rfl)

theorem Station.coherent_layout : Station.layout.Coherent R :=
  coherent_record (coherent_cons coherent_buffer <| coherent_cons coherent_buffer coherent_nil)
    (fun _ => rfl) (fun _ => rfl)

namespace Notification

omit [Piecewise R] in
theorem coherent_fieldsLayout {β : Type} {fields : Fields β} (h : fields.Coherent R) :
    (fieldsLayout fields).Coherent R :=
  coherent_record h (fun _ => rfl) (fun _ => rfl)

/-- **Writing and reading notifications agree.** -/
theorem coherent_layout : layout.Coherent R := by
  refine coherent_choice Notification.ctorIdx (by decide)
    (fun c => by cases c <;> exact of_decide_eq_true rfl)
    ⟨coherent_carrying Sighting.coherent_layout (fun _ => rfl) ?_,
      coherent_carrying
        (FullSighting.coherent_layoutWith coherent_u16 coherent_u8 coherent_i32)
        (fun _ => rfl) ?_,
      coherent_carrying
        (FullSighting.coherent_layoutWith (coherent_withDefault coherent_u16 0)
          (coherent_withDefault coherent_u8 0) (coherent_withDefault coherent_i32 0))
        (fun _ => rfl) ?_,
      coherent_carrying (coherent_fieldsLayout <| coherent_cons coherent_buffer coherent_nil)
        (fun _ => rfl) ?_,
      coherent_bare ?_ rfl,
      coherent_carrying
        (coherent_fieldsLayout <| coherent_cons coherent_buffer <|
          coherent_cons coherent_i32 coherent_nil)
        (fun _ => rfl) ?_,
      coherent_carrying (coherent_fieldsLayout <| coherent_cons coherent_i32 coherent_nil)
        (fun _ => rfl) ?_,
      coherent_carrying GroupStart.coherent_layout (fun _ => rfl) ?_,
      coherent_carrying FullGroupStart.coherent_layout (fun _ => rfl) ?_,
      coherent_bare ?_ rfl,
      coherent_carrying (coherent_fieldsLayout <| coherent_cons coherent_text coherent_nil)
        (fun _ => rfl) ?_,
      coherent_carrying
        (coherent_fieldsLayout <| coherent_cons coherent_text <|
          coherent_cons coherent_bool coherent_nil)
        (fun _ => rfl) ?_,
      coherent_carrying ProvisionReport.coherent_layout (fun _ => rfl) ?_,
      coherent_carrying FullProvisionReport.coherent_layout (fun _ => rfl) ?_,
      coherent_carrying Invitation.coherent_layout (fun _ => rfl) ?_,
      coherent_carrying
        (coherent_fieldsLayout <| coherent_cons coherent_buffer <|
          coherent_cons coherent_i32 coherent_nil)
        (fun _ => rfl) ?_,
      coherent_carrying Station.coherent_layout (fun _ => rfl) ?_,
      coherent_carrying Station.coherent_layout (fun _ => rfl) ?_,
      coherent_carrying
        (coherent_fieldsLayout <| coherent_cons coherent_buffer <| coherent_cons coherent_u16 <|
          coherent_cons coherent_buffer coherent_nil)
        (fun _ => rfl) ?_,
      trivial⟩
  all_goals
    intro c
    cases c <;> first | exact ⟨rfl, rfl⟩ | nofun

end Notification

/-! ### Devices -/

theorem DisplayInfo.coherent_layout : DisplayInfo.layout.Coherent R :=
  coherent_record
    (coherent_cons coherent_u16 <| coherent_cons coherent_u16 <| coherent_cons coherent_u16 <|
      coherent_cons (coherent_optional coherent_u16) coherent_nil)
    (fun _ => rfl) (fun _ => rfl)

theorem Availability.coherent_layout : Availability.layout.Coherent R :=
  coherent_enumeration (by decide) (fun a => by cases a <;> decide) (by decide)

theorem InformationElement.coherent_layout : InformationElement.layout.Coherent R :=
  coherent_record
    (coherent_cons coherent_u8 <| coherent_cons (coherent_optional coherent_u8) <|
      coherent_cons coherent_bytes coherent_nil)
    (fun _ => rfl) (fun _ => rfl)

theorem Peer.coherent_layout : Peer.layout.Coherent NoLonger :=
  coherent_record
    (coherent_cons coherent_address <| coherent_cons coherent_text <| coherent_cons coherent_text <|
      coherent_cons coherent_u8 <| coherent_cons coherent_i32 <| coherent_cons coherent_u16 <|
      coherent_cons Availability.coherent_layout <|
      coherent_cons (coherent_optional DisplayInfo.coherent_layout) <|
      coherent_cons (coherent_list InformationElement.coherent_layout fun _ => nofun) coherent_nil)
    (fun _ => rfl) (fun _ => rfl)

/-! ### Groups and provisioning -/

theorem GroupStatus.coherent_layout : GroupStatus.layout.Coherent R :=
  coherent_enumeration (by decide) (fun s => by cases s <;> decide) (by decide)

theorem ClientAddresses.coherent_layout : ClientAddresses.layout.Coherent R :=
  coherent_record
    (coherent_cons coherent_ipv4 <| coherent_cons coherent_ipv4 <|
      coherent_cons coherent_ipv4 coherent_nil)
    (fun _ => rfl) (fun _ => rfl)

theorem Group.coherent_layout : Group.layout.Coherent NoLonger :=
  coherent_record
    (coherent_cons (coherent_optional coherent_text) <| coherent_cons coherent_bool <|
      coherent_cons (coherent_optional coherent_text) <| coherent_cons coherent_i32 <|
      coherent_cons Peer.coherent_layout <|
      coherent_cons (coherent_list Peer.coherent_layout fun _ => nofun) <|
      coherent_cons (coherent_optional coherent_text) <| coherent_cons coherent_i32 <|
      coherent_cons (coherent_optional coherent_address) <|
      coherent_cons (coherent_optional ClientAddresses.coherent_layout) coherent_nil)
    (fun _ => rfl) (fun _ => rfl)

theorem RemovedGroup.coherent_layout : RemovedGroup.layout.Coherent R :=
  coherent_record (coherent_cons coherent_text <| coherent_cons coherent_bool coherent_nil)
    (fun _ => rfl) (fun _ => rfl)

theorem Setup.coherent_layout : Setup.layout.Coherent R :=
  coherent_enumeration (by decide) (fun s => by cases s <;> decide) (by decide)

theorem ProvisionFailure.coherent_layout : ProvisionFailure.layout.Coherent R :=
  coherent_enumeration (by decide) (fun f => by cases f <;> decide) (by decide)

theorem Outcome.coherent_layout : Outcome.layout.Coherent R := by
  refine coherent_choice Outcome.ctorIdx (by decide)
    (fun o => by cases o <;> exact of_decide_eq_true rfl)
    ⟨coherent_bare ?_ rfl,
      coherent_carrying coherent_text (fun _ => rfl) ?_,
      coherent_bare ?_ rfl,
      coherent_bare ?_ rfl,
      coherent_carrying ProvisionFailure.coherent_layout (fun _ => rfl) ?_,
      trivial⟩
  all_goals
    intro o
    cases o <;> first | exact ⟨rfl, rfl⟩ | nofun

theorem Provision.coherent_layout : Provision.layout.Coherent NoLonger :=
  coherent_record
    (coherent_cons Peer.coherent_layout <| coherent_cons Outcome.coherent_layout <|
      coherent_cons (coherent_optional coherent_text) coherent_nil)
    (fun _ => rfl) (fun _ => rfl)

/-! ### Services -/

namespace Service

theorem NameAnswer.coherent_layout : NameAnswer.layout.Coherent NoLonger :=
  coherent_record
    (coherent_cons coherent_text <| coherent_cons coherent_u16 <| coherent_cons coherent_u8 <|
      coherent_cons (coherent_optional coherent_text) <| coherent_cons coherent_table coherent_nil)
    (fun _ => rfl) (fun _ => rfl)

theorem Announcement.coherent_layout : Announcement.layout.Coherent R :=
  coherent_record
    (coherent_cons coherent_u8 <|
      coherent_cons (coherent_list coherent_text fun _ => nofun) coherent_nil)
    (fun _ => rfl) (fun _ => rfl)

theorem Body.coherent_layout : Body.layout.Coherent NoLonger := by
  refine coherent_choice Body.ctorIdx (by decide)
    (fun b => by cases b <;> exact of_decide_eq_true rfl)
    ⟨coherent_carrying NameAnswer.coherent_layout (fun _ => rfl) ?_,
      coherent_carrying Announcement.coherent_layout (fun _ => rfl) ?_,
      coherent_bare ?_ rfl,
      trivial⟩
  all_goals
    intro b
    cases b <;> first | exact ⟨rfl, rfl⟩ | nofun

theorem Response.coherent_layout : Response.layout.Coherent NoLonger :=
  coherent_record
    (coherent_cons coherent_u8 <| coherent_cons coherent_u8 <| coherent_cons coherent_u8 <|
      coherent_cons coherent_address <| coherent_cons coherent_bytes <|
      coherent_cons Body.coherent_layout coherent_nil)
    (fun _ => rfl) (fun _ => rfl)

end Service

/-! ### Events -/

theorem NegotiationRequest.coherent_layout : NegotiationRequest.layout.Coherent NoLonger :=
  coherent_record
    (coherent_cons coherent_address <| coherent_cons Setup.coherent_layout coherent_nil)
    (fun _ => rfl) (fun _ => rfl)

/-- **Writing and reading events agree.** -/
theorem Event.coherent_layout : Event.layout.Coherent NoLonger := by
  refine coherent_choice Event.ctorIdx (by decide)
    (fun e => by cases e <;> exact of_decide_eq_true rfl)
    ⟨coherent_carrying Peer.coherent_layout (fun _ => rfl) ?_,
      coherent_carrying Peer.coherent_layout (fun _ => rfl) ?_,
      coherent_bare ?_ rfl,
      coherent_carrying NegotiationRequest.coherent_layout (fun _ => rfl) ?_,
      coherent_bare ?_ rfl,
      coherent_carrying GroupStatus.coherent_layout (fun _ => rfl) ?_,
      coherent_carrying Group.coherent_layout (fun _ => rfl) ?_,
      coherent_bare ?_ rfl,
      coherent_carrying coherent_text (fun _ => rfl) ?_,
      coherent_carrying RemovedGroup.coherent_layout (fun _ => rfl) ?_,
      coherent_carrying Provision.coherent_layout (fun _ => rfl) ?_,
      coherent_carrying Group.coherent_layout (fun _ => rfl) ?_,
      coherent_carrying GroupStatus.coherent_layout (fun _ => rfl) ?_,
      coherent_carrying Peer.coherent_layout (fun _ => rfl) ?_,
      coherent_carrying Peer.coherent_layout (fun _ => rfl) ?_,
      coherent_carrying (coherent_list Service.Response.coherent_layout fun _ => nofun)
        (fun _ => rfl) ?_,
      trivial⟩
  all_goals
    intro e
    cases e <;> first | exact ⟨rfl, rfl⟩ | nofun

end WifiDirect
