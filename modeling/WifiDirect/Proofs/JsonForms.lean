import WifiDirect.Proofs.JsonReading
import WifiDirect.Event
import WifiDirect.Notification

/-!
# Notifications and what events carry as JSON

`Notification.readsBack_layout`: the JSON of a notification is read as this notification, in any
order of the members of its objects. So is the JSON of all that events carry.

A record needs no more than that its fields have different names, each of which reads back by a lemma
for `simp`. In a choice, a case has to build what it takes apart.
-/

namespace WifiDirect

open Layout Fields Case

variable {f : Json → Json} [Json.Reorders f]

/-! ### Notifications -/

@[simp] theorem readsBack_buffer : buffer.ReadsBack f :=
  readsBack_optional readsBack_bytes ofJson?_null_bytes

theorem Sighting.readsBack_layout : Sighting.layout.ReadsBack f := by
  refine readsBack_record ?_ (by decide) fun _ => rfl
  repeat' apply readsBack_cons
  all_goals simp

theorem FullSighting.readsBack_layoutWith {arity : Arity} {methods : Layout UInt16}
    {deviceCapability : Layout UInt8} {groupCapability : Layout Int32}
    (hmethods : methods.ReadsBack f) (hdevice : deviceCapability.ReadsBack f)
    (hgroup : groupCapability.ReadsBack f) :
    (layoutWith arity methods deviceCapability groupCapability).ReadsBack f := by
  refine readsBack_record ?_ ?_ fun _ => rfl
  · repeat' apply readsBack_cons
    all_goals simp [hmethods, hdevice, hgroup]
  · simp only [names_cons]
    decide

@[simp] theorem ClientWords.ofJson?_null_layout :
    ClientWords.layout.ofJson? .null = none := by decide

@[simp] theorem ClientWords.readsBack_layout : ClientWords.layout.ReadsBack f := by
  refine readsBack_record ?_ (by decide) fun _ => rfl
  repeat' apply readsBack_cons
  all_goals simp

theorem GroupStart.readsBack_layout : GroupStart.layout.ReadsBack f := by
  refine readsBack_record ?_ (by decide) fun _ => rfl
  repeat' apply readsBack_cons
  all_goals simp

theorem FullGroupStart.readsBack_layout : FullGroupStart.layout.ReadsBack f := by
  refine readsBack_record ?_ (by decide) fun _ => rfl
  repeat' apply readsBack_cons
  all_goals simp

theorem ProvisionReport.readsBack_layout : ProvisionReport.layout.ReadsBack f := by
  refine readsBack_record ?_ (by decide) fun _ => rfl
  repeat' apply readsBack_cons
  all_goals simp

theorem FullProvisionReport.readsBack_layout : FullProvisionReport.layout.ReadsBack f := by
  refine readsBack_record ?_ (by decide) fun _ => rfl
  repeat' apply readsBack_cons
  all_goals simp

theorem Invitation.readsBack_layout : Invitation.layout.ReadsBack f := by
  refine readsBack_record ?_ (by decide) fun _ => rfl
  repeat' apply readsBack_cons
  all_goals simp

theorem Station.readsBack_layout : Station.layout.ReadsBack f := by
  refine readsBack_record ?_ (by decide) fun _ => rfl
  repeat' apply readsBack_cons
  all_goals simp

namespace Notification

theorem readsBack_fieldsLayout {β : Type} {fields : Fields β} (h : fields.ReadsBack f)
    (hnames : fields.names.Nodup) : (fieldsLayout fields).ReadsBack f :=
  readsBack_record h hnames fun _ => rfl

/-- **A notification is read back from its JSON.** -/
theorem readsBack_layout : layout.ReadsBack f := by
  refine readsBack_choice
    ⟨readsBack_carrying Sighting.readsBack_layout ?_,
      readsBack_carrying
        (FullSighting.readsBack_layoutWith readsBack_u16 readsBack_u8 readsBack_i32) ?_,
      readsBack_carrying
        (FullSighting.readsBack_layoutWith (readsBack_withDefault readsBack_u16 0)
          (readsBack_withDefault readsBack_u8 0) (readsBack_withDefault readsBack_i32 0)) ?_,
      readsBack_carrying (readsBack_fieldsLayout (by simp) (by decide)) ?_,
      readsBack_bare ?_,
      readsBack_carrying (readsBack_fieldsLayout (by simp) (by decide)) ?_,
      readsBack_carrying (readsBack_fieldsLayout (by simp) (by decide)) ?_,
      readsBack_carrying GroupStart.readsBack_layout ?_,
      readsBack_carrying FullGroupStart.readsBack_layout ?_,
      readsBack_bare ?_,
      readsBack_carrying (readsBack_fieldsLayout (by simp) (by decide)) ?_,
      readsBack_carrying (readsBack_fieldsLayout (by simp) (by decide)) ?_,
      readsBack_carrying ProvisionReport.readsBack_layout ?_,
      readsBack_carrying FullProvisionReport.readsBack_layout ?_,
      readsBack_carrying Invitation.readsBack_layout ?_,
      readsBack_carrying (readsBack_fieldsLayout (by simp) (by decide)) ?_,
      readsBack_carrying Station.readsBack_layout ?_,
      readsBack_carrying Station.readsBack_layout ?_,
      readsBack_carrying
        (readsBack_fieldsLayout (readsBack_cons readsBack_buffer (by simp)) (by decide)) ?_⟩
    (by decide) fun c => by cases c <;> rfl
  -- each case takes apart what it builds, and no other value
  all_goals
    intro n
    cases n <;> first
      | exact fun _ => rfl
      | (intro content h; cases h; try rfl)
      | (intro h; cases h)

end Notification

/-! ### Devices -/

@[simp] theorem DisplayInfo.ofJson?_null_layout :
    DisplayInfo.layout.ofJson? .null = none := by decide

@[simp] theorem DisplayInfo.readsBack_layout : DisplayInfo.layout.ReadsBack f := by
  refine readsBack_record ?_ (by decide) fun _ => rfl
  repeat' apply readsBack_cons
  all_goals simp

@[simp] theorem Availability.readsBack_layout : Availability.layout.ReadsBack f :=
  readsBack_enumeration (by decide) fun a => by cases a <;> decide

@[simp] theorem InformationElement.readsBack_layout : InformationElement.layout.ReadsBack f := by
  refine readsBack_record ?_ (by decide) fun _ => rfl
  repeat' apply readsBack_cons
  all_goals simp

@[simp] theorem Peer.readsBack_layout : Peer.layout.ReadsBack f := by
  refine readsBack_record ?_ (by decide) fun _ => rfl
  repeat' apply readsBack_cons
  all_goals simp

/-! ### Groups and provisioning -/

theorem GroupStatus.readsBack_layout : GroupStatus.layout.ReadsBack f :=
  readsBack_enumeration (by decide) fun s => by cases s <;> decide

@[simp] theorem ClientAddresses.ofJson?_null_layout :
    ClientAddresses.layout.ofJson? .null = none := by decide

@[simp] theorem ClientAddresses.readsBack_layout : ClientAddresses.layout.ReadsBack f := by
  refine readsBack_record ?_ (by decide) fun _ => rfl
  repeat' apply readsBack_cons
  all_goals simp

theorem Group.readsBack_layout : Group.layout.ReadsBack f := by
  refine readsBack_record ?_ (by decide) fun _ => rfl
  repeat' apply readsBack_cons
  all_goals simp

theorem RemovedGroup.readsBack_layout : RemovedGroup.layout.ReadsBack f := by
  refine readsBack_record ?_ (by decide) fun _ => rfl
  repeat' apply readsBack_cons
  all_goals simp

@[simp] theorem Setup.readsBack_layout : Setup.layout.ReadsBack f :=
  readsBack_enumeration (by decide) fun s => by cases s <;> decide

theorem ProvisionFailure.readsBack_layout : ProvisionFailure.layout.ReadsBack f :=
  readsBack_enumeration (by decide) fun r => by cases r <;> decide

@[simp] theorem Outcome.readsBack_layout : Outcome.layout.ReadsBack f := by
  refine readsBack_choice
    ⟨readsBack_bare ?_,
      readsBack_carrying readsBack_text ?_,
      readsBack_bare ?_,
      readsBack_bare ?_,
      readsBack_carrying ProvisionFailure.readsBack_layout ?_⟩
    (by decide) fun o => by cases o <;> rfl
  all_goals
    intro o
    cases o <;> first
      | exact fun _ => rfl
      | (intro content h; cases h; try rfl)
      | (intro h; cases h)

theorem Provision.readsBack_layout : Provision.layout.ReadsBack f := by
  refine readsBack_record ?_ (by decide) fun _ => rfl
  repeat' apply readsBack_cons
  all_goals simp

/-! ### Services -/

namespace Service

theorem NameAnswer.readsBack_layout : NameAnswer.layout.ReadsBack f := by
  refine readsBack_record ?_ (by decide) fun _ => rfl
  repeat' apply readsBack_cons
  all_goals simp

theorem Announcement.readsBack_layout : Announcement.layout.ReadsBack f := by
  refine readsBack_record ?_ (by decide) fun _ => rfl
  repeat' apply readsBack_cons
  all_goals simp

@[simp] theorem Body.readsBack_layout : Body.layout.ReadsBack f := by
  refine readsBack_choice
    ⟨readsBack_carrying NameAnswer.readsBack_layout ?_,
      readsBack_carrying Announcement.readsBack_layout ?_,
      readsBack_bare ?_⟩
    (by decide) fun b => by cases b <;> rfl
  all_goals
    intro b
    cases b <;> first
      | exact fun _ => rfl
      | (intro content h; cases h; try rfl)
      | (intro h; cases h)

theorem Response.readsBack_layout : Response.layout.ReadsBack f := by
  refine readsBack_record ?_ (by decide) fun _ => rfl
  repeat' apply readsBack_cons
  all_goals simp

end Service

/-! ### Requests -/

theorem NegotiationRequest.readsBack_layout : NegotiationRequest.layout.ReadsBack f := by
  refine readsBack_record ?_ (by decide) fun _ => rfl
  repeat' apply readsBack_cons
  all_goals simp

end WifiDirect
