import WifiDirect.Foreign
import WifiDirect.Proofs.SinkDelivery
import Mathlib.Data.List.Forall2

/-!
# Passphrases and PINs

Two secrets pass through the decoder. `SessionStep.passphrase_unlogged`: the passphrase of a group
leaves no trace in the log of a session, nor in what its steps come to. `Notification.pin_hidden`:
the PIN of a provisioning leaves no trace anywhere, unless it has to be shown, and then the event
carries it as it is.

Both compare two runs that differ in the secret alone. To put another passphrase into a notification
is to put it into the event (`Notification.decode_withPassphrase`), of which no record speaks; to put
another PIN into a notification leaves what it decodes to as it is
(`Notification.decode_withPin`).
-/

namespace WifiDirect

/-! ### Passphrases -/

/-- The notification with this passphrase, if it is of a group that was started. -/
def Notification.withPassphrase (passphrase? : Option String) : Notification → Notification
  | .groupStarted s => .groupStarted { s with passphrase? }
  | .groupStartedWithParams s => .groupStartedWithParams { s with passphrase? }
  | n => n

/-- The event with this passphrase, if it is of a group that was started. -/
def Event.withPassphrase (passphrase? : Option String) : Event → Event
  | .groupStarted g => .groupStarted { g with passphrase? }
  | e => e

/-- The event with this passphrase, and its notes as they are. -/
def Decoded.withPassphrase (passphrase? : Option String) (d : Decoded) : Decoded :=
  { d with event := d.event.withPassphrase passphrase? }

variable {passphrase? : Option String}

@[simp] theorem Notification.name_withPassphrase (n : Notification) :
    (n.withPassphrase passphrase?).name = n.name := by
  cases n <;> rfl

@[simp] theorem Event.kind_withPassphrase (e : Event) :
    (e.withPassphrase passphrase?).kind = e.kind := by
  cases e <;> rfl

/-- **No record speaks of the passphrase.** -/
@[simp] theorem SinkCall.record_ofEvent_withPassphrase (interface : String) (e : Event) :
    (ofEvent (e.withPassphrase passphrase?)).record interface = (ofEvent e).record interface := by
  cases e <;> rfl

/-- Only the start of a group is reported with a passphrase. -/
theorem Reports.withPassphrase_eq {n : Notification} {e : Event} (h : Reports n e)
    (hn : n.groupStart? = none) : e.withPassphrase passphrase? = e := by
  cases h with
  | groupStarted hc _ =>
    rw [hn] at hc
    cases hc
  | _ => rfl

theorem FullGroupStart.decode_withPassphrase (s : FullGroupStart) :
    FullGroupStart.decode { s with passphrase? } =
      s.decode.map (Decoded.withPassphrase passphrase?) := by
  unfold FullGroupStart.decode FullGroupStart.group
  rcases requireField .groupInterface (s.interface?.filter (· ≠ "")) with _ | interface
  · rfl
  rcases requireField .ssid s.ssid? with _ | ssid
  · rfl
  rcases Address.require .ownerAddress s.ownerAddress? with _ | owner <;> rfl

theorem Yields.map_eq_self {ε α : Type} {f : α → α} {x : Except ε α}
    (h : Yields (fun a => f a = a) x) : x.map f = x := by
  rcases x with fault | a
  · rfl
  · exact congrArg Except.ok (h a rfl)

/-- **The passphrase of a notification is that of its event**, and nothing else depends on it. -/
theorem Notification.decode_withPassphrase (n : Notification) :
    (n.withPassphrase passphrase?).decode = n.decode.map (Decoded.withPassphrase passphrase?) := by
  have hother (hn : n.groupStart? = none) : Yields (fun d => d.withPassphrase passphrase? = d)
      n.decode := by
    refine n.checked_decode.yields.mono fun d hd => ?_
    rw [Decoded.withPassphrase, hd.withPassphrase_eq hn]
  cases n with
  | groupStarted s => exact s.full.decode_withPassphrase
  | groupStartedWithParams s => exact s.decode_withPassphrase
  | _ => exact (hother rfl).map_eq_self.symm

/-! ### Sessions -/

/-- A step of a session: a notification is delivered, or an event is handed over as it is. -/
inductive SessionStep
  | deliver (n : Notification)
  | handOver (e : Event)
  deriving DecidableEq, Repr

namespace SessionStep

/-- The step with this passphrase. -/
def withPassphrase (passphrase? : Option String) : SessionStep → SessionStep
  | deliver n => deliver (n.withPassphrase passphrase?)
  | handOver e => handOver (e.withPassphrase passphrase?)

/-- The delivery that a step makes. -/
def delivery (interface : String) : SessionStep → Delivery
  | deliver n => .ofNotification interface n
  | handOver e => .ofEvent e

/-- The log of a session with the sink that reports: the records of decoding and of the sink, of all
levels. -/
def log (interface : String) (steps : List SessionStep) : List LogRecord :=
  steps.flatMap fun s => (s.delivery interface).records interface

/-- What each step of a session comes to: an error or none. -/
def results (interface : String) (steps : List SessionStep) : List (Option Rejection) :=
  steps.map fun s => (s.delivery interface).fate.error?

/-- One step: the passphrase has no effect on the records and the result. -/
theorem delivery_withPassphrase (interface : String) (s : SessionStep) :
    ((s.withPassphrase passphrase?).delivery interface).records interface =
        (s.delivery interface).records interface ∧
      ((s.withPassphrase passphrase?).delivery interface).fate.error? =
        (s.delivery interface).fate.error? := by
  cases s with
  | handOver e =>
    refine ⟨?_, rfl⟩
    show [(SinkCall.ofEvent (e.withPassphrase passphrase?)).record interface] =
      [(SinkCall.ofEvent e).record interface]
    rw [SinkCall.record_ofEvent_withPassphrase]
  | deliver n =>
    simp only [withPassphrase, delivery, Delivery.ofNotification,
      Notification.decode_withPassphrase, Notification.name_withPassphrase]
    rcases n.decode with rejection | d
    · exact ⟨rfl, rfl⟩
    · refine ⟨?_, rfl⟩
      show d.notes ++ [Delivery.dispatchRecord interface (d.event.withPassphrase passphrase?)] ++
          [(SinkCall.ofEvent (d.event.withPassphrase passphrase?)).record interface] =
        d.notes ++ [Delivery.dispatchRecord interface d.event] ++
          [(SinkCall.ofEvent d.event).record interface]
      rw [SinkCall.record_ofEvent_withPassphrase, Delivery.dispatchRecord, Delivery.dispatchRecord,
        Event.kind_withPassphrase]

/-- **The passphrase never reaches the log.** Sessions whose steps differ in passphrases alone have
one log and come to the same. -/
theorem passphrase_unlogged (interface : String) {steps steps' : List SessionStep}
    (h : List.Forall₂ (fun s s' => ∃ passphrase?, s' = s.withPassphrase passphrase?) steps steps') :
    log interface steps' = log interface steps ∧ results interface steps' = results interface steps := by
  induction h with
  | nil => exact ⟨rfl, rfl⟩
  | @cons s s' steps steps' hs _ ih =>
    obtain ⟨passphrase?, rfl⟩ := hs
    obtain ⟨hrecords, herror⟩ := @delivery_withPassphrase passphrase? interface s
    constructor
    · unfold log at ih ⊢
      rw [List.flatMap_cons, List.flatMap_cons, hrecords, ih.1]
    · unfold results at ih ⊢
      rw [List.map_cons, List.map_cons, herror, ih.2]

/-- Steps with a start of a group, one that is malformed and one that is handed over. -/
def groupSteps (passphrase? : Option String) : List SessionStep :=
  let start : GroupStart :=
    { interface? := some "p2p-0", isOwner := false, ssid? := some [0x64], frequency := 2437,
      passphrase?, ownerAddress? := some [2, 0, 0, 0, 0, 1], isPersistent := true }
  let group : Group :=
    { interface? := none, isOwner := true, networkName? := none, networkId := -1,
      owner := .ofAddress .zero, clients := [], passphrase?, frequency := 0,
      interfaceAddress? := none, clientAddresses? := none }
  [.deliver (.groupStarted start), .deliver (.groupStarted { start with ssid? := none }),
    .handOver (.groupStarted group)]

theorem passphrase_unlogged_groupSteps :
    List.Forall₂ (fun s s' => ∃ passphrase?, s' = withPassphrase passphrase? s)
        (groupSteps none) (groupSteps (some "12345678")) ∧
      log "p2p0" (groupSteps (some "12345678")) = log "p2p0" (groupSteps none) := by
  have h : List.Forall₂ (fun s s' => ∃ passphrase?, s' = withPassphrase passphrase? s)
      (groupSteps none) (groupSteps (some "12345678")) :=
    .cons ⟨_, rfl⟩ (.cons ⟨_, rfl⟩ (.cons ⟨_, rfl⟩ .nil))
  exact ⟨h, (passphrase_unlogged "p2p0" h).1⟩

end SessionStep

/-! ### PINs -/

/-- The notification with this PIN, if it is of a provisioning. -/
def Notification.withPin (pin? : Option String) : Notification → Notification
  | .provisionCompleted r => .provisionCompleted { r with pin? }
  | .provisionCompletedWithParams r => .provisionCompletedWithParams { r with pin? }
  | n => n

/-- A report asks to show a PIN: the provisioning succeeded, and of the setup methods only the
display is offered. -/
structure FullProvisionReport.AsksToShow (r : FullProvisionReport) : Prop where
  address : HasLength 6 r.peerAddress?
  status : r.status = 0
  display : r.methods &&& 0x8 ≠ 0
  pushButton : r.methods &&& 0x80 = 0
  keypad : r.methods &&& 0x100 = 0

variable {pin? : Option String}

@[simp] theorem Notification.name_withPin (n : Notification) : (n.withPin pin?).name = n.name := by
  cases n <;> rfl

/-- The methods settle the outcome without the PIN, unless only the display is offered. -/
theorem Outcome.ofMethods_eq {methods : UInt16}
    (h : methods &&& 0x8 = 0 ∨ methods &&& 0x80 ≠ 0 ∨ methods &&& 0x100 ≠ 0) (isRequest : Bool)
    (pin pin' : String) : ofMethods methods isRequest pin = ofMethods methods isRequest pin' := by
  unfold ofMethods pushButtonBit keypadBit displayBit
  by_cases hpush : methods &&& 0x80 ≠ 0
  · rw [if_pos hpush, if_pos hpush]
  by_cases hkeypad : methods &&& 0x100 ≠ 0
  · rw [if_neg hpush, if_pos hkeypad, if_neg hpush, if_pos hkeypad]
  have hdisplay : ¬ methods &&& 0x8 ≠ 0 := by
    rcases h with h | h | h
    · exact not_not.2 h
    · exact absurd h hpush
    · exact absurd h hkeypad
  simp only [if_neg hpush, if_neg hkeypad, if_neg hdisplay]

/-- Where only the display is offered, the PIN is shown. -/
theorem Outcome.ofMethods_display {methods : UInt16} (hdisplay : methods &&& 0x8 ≠ 0)
    (hpush : methods &&& 0x80 = 0) (hkeypad : methods &&& 0x100 = 0) (isRequest : Bool)
    (pin : String) : ofMethods methods isRequest pin = .ok (.showPin pin) := by
  unfold ofMethods pushButtonBit keypadBit displayBit
  rw [if_neg (not_not.2 hpush), if_neg (not_not.2 hkeypad), if_pos hdisplay]

namespace FullProvisionReport

variable {r : FullProvisionReport}

theorem provision_withPin (h : ¬ r.AsksToShow) : provision { r with pin? } = r.provision := by
  unfold provision
  rcases haddress : Address.require .peerAddress r.peerAddress? with reason | address
  · rfl
  rcases hfailure : ProvisionFailure.ofStatus r.status with rejection | _ | reason
  · rfl
  · have hlength : HasLength 6 r.peerAddress? :=
      hasLength_six_iff.2 ⟨address, Address.require_eq_ok_iff.1 haddress⟩
    have hstatus : r.status = 0 := ((checked_ofStatus r.status).of_eq_ok hfailure).1 rfl
    have hmethods : r.methods &&& 0x8 = 0 ∨ r.methods &&& 0x80 ≠ 0 ∨ r.methods &&& 0x100 ≠ 0 := by
      by_contra hnone
      simp only [not_or, not_not] at hnone
      exact h ⟨hlength, hstatus, hnone.1, hnone.2.1, hnone.2.2⟩
    show (dropping _ (Outcome.ofMethods _ _ (pin?.getD "")) >>= _) =
      (dropping _ (Outcome.ofMethods _ _ (r.pin?.getD "")) >>= _)
    rw [Outcome.ofMethods_eq hmethods _ _ (r.pin?.getD "")]
  · rfl

theorem provision_of_asksToShow (h : r.AsksToShow) :
    ∃ a, r.peerAddress? = some a.octets ∧ r.provision = .ok
      { device := .ofAddress a, outcome := .showPin (r.pin?.getD "")
        groupInterface? := r.groupInterface? } := by
  obtain ⟨a, ha⟩ := hasLength_six_iff.1 h.address
  have haddress : Address.require .peerAddress r.peerAddress? = .ok a :=
    Address.require_eq_ok_iff.2 ha
  have hstatus : ProvisionFailure.ofStatus r.status = .ok none := by
    rw [h.status]
    rfl
  refine ⟨a, ha, ?_⟩
  unfold provision
  rw [haddress, hstatus]
  show (dropping _ (Outcome.ofMethods _ _ _) >>= _) = _
  rw [Outcome.ofMethods_display h.display h.pushButton h.keypad]
  rfl

end FullProvisionReport

namespace Notification

variable {n : Notification} {r : FullProvisionReport}

theorem provisionReport?_withPin (hr : n.provisionReport? = some r) :
    (n.withPin pin?).provisionReport? = some { r with pin? } := by
  cases n <;> cases hr <;> rfl

/-- A notification of a provisioning is decoded as its report. -/
theorem decode_of_provisionReport? (hr : n.provisionReport? = some r) : n.decode = r.decode := by
  cases n <;> cases hr <;> rfl

/-- **Unless the PIN has to be shown, nothing depends on it.** -/
theorem decode_withPin (hr : n.provisionReport? = some r) (h : ¬ r.AsksToShow) :
    (n.withPin pin?).decode = n.decode := by
  rw [decode_of_provisionReport? (provisionReport?_withPin hr), decode_of_provisionReport? hr]
  unfold FullProvisionReport.decode
  rw [FullProvisionReport.provision_withPin h]

/-- A PIN that has to be shown is the one of the event. -/
theorem event_of_asksToShow (hr : n.provisionReport? = some r) (h : r.AsksToShow) :
    ∃ a, r.peerAddress? = some a.octets ∧ n.event = .ok (.provision
      { device := .ofAddress a, outcome := .showPin (r.pin?.getD "")
        groupInterface? := r.groupInterface? }) := by
  obtain ⟨a, ha, hprovision⟩ := FullProvisionReport.provision_of_asksToShow h
  refine ⟨a, ha, ?_⟩
  unfold event
  rw [decode_of_provisionReport? hr, FullProvisionReport.decode, hprovision]
  rfl

/-- Nobody can tell two notifications apart. -/
structure Indistinguishable (n n' : Notification) : Prop where
  /-- They mean the same event, or are rejected for the same reason. -/
  event : n.event = n'.event
  /-- A sink gets the same call or none, and the same error is reported. -/
  fate : ∀ interface, (Delivery.ofNotification interface n).fate =
    (Delivery.ofNotification interface n').fate
  /-- The log is the same, from decoding and from the sink that reports. -/
  records : ∀ interface, (Delivery.ofNotification interface n).records interface =
    (Delivery.ofNotification interface n').records interface
  /-- So are the lines of the sink that writes lines. -/
  lines : ∀ interface, (Delivery.ofNotification interface n).lines interface =
    (Delivery.ofNotification interface n').lines interface
  /-- A foreign caller who hands in either gets the same code, the same buffer and the same log. -/
  call : ∀ handle? input input' size size' buffer?,
    Frame.read layout input = .ok ⟨n, size⟩ → Frame.read layout input' = .ok ⟨n', size'⟩ →
      Foreign.decode handle? (some input) buffer? = Foreign.decode handle? (some input') buffer?

theorem indistinguishable_of_decode {n n' : Notification} (hdecode : n.decode = n'.decode)
    (hname : n.name = n'.name) : Indistinguishable n n' := by
  have hdelivery (interface : String) :
      Delivery.ofNotification interface n = Delivery.ofNotification interface n' := by
    unfold Delivery.ofNotification
    rw [hdecode, hname]
  refine ⟨?_, fun _ => ?_, fun _ => ?_, fun _ => ?_, ?_⟩
  · unfold event
    rw [hdecode]
  · rw [hdelivery]
  · rw [hdelivery]
  · rw [hdelivery]
  · intro handle? input input' size size' buffer? hread hread'
    rcases handle? with _ | handle
    · rfl
    rcases buffer? with _ | buffer
    · rfl
    simp only [Foreign.decode, Foreign.decodeFrame, hread, hread', hdecode]

/-- **A PIN is seen only where it has to be shown, and then as it is.** -/
theorem pin_hidden (hr : n.provisionReport? = some r) (pin? : Option String) :
    (¬ r.AsksToShow → Indistinguishable (n.withPin pin?) n) ∧
    (r.AsksToShow → ∃ a, r.peerAddress? = some a.octets ∧
      n.event = .ok (.provision
        { device := .ofAddress a, outcome := .showPin (r.pin?.getD "")
          groupInterface? := r.groupInterface? }) ∧
      (n.withPin pin?).event = .ok (.provision
        { device := .ofAddress a, outcome := .showPin (pin?.getD "")
          groupInterface? := r.groupInterface? })) := by
  refine ⟨fun h => ?_, fun h => ?_⟩
  · exact indistinguishable_of_decode (decode_withPin hr h) n.name_withPin
  · have h' : FullProvisionReport.AsksToShow { r with pin? } :=
      ⟨h.address, h.status, h.display, h.pushButton, h.keypad⟩
    obtain ⟨a, ha, hevent⟩ := event_of_asksToShow hr h
    obtain ⟨a', ha', hevent'⟩ := event_of_asksToShow (provisionReport?_withPin hr) h'
    have haa' : a' = a := by
      have hoctets : a'.octets = a.octets := Option.some.inj (ha'.symm.trans ha)
      cases a
      cases a'
      cases hoctets
      rfl
    exact ⟨a, ha, hevent, haa' ▸ hevent'⟩

/-- The push button hides the PIN that the display alone would show. -/
theorem pin_hidden_pushButton :
    let completed (methods : UInt16) (pin? : Option String) : Notification := .provisionCompleted
      { peerAddress? := some [2, 0, 0, 0, 0, 1], isRequest := false, status := 0, methods, pin? }
    Indistinguishable (completed 0x88 (some "12345670")) (completed 0x88 none) ∧
      ∃ p, (completed 0x8 (some "12345670")).event = .ok (.provision p) ∧
        p.outcome = .showPin "12345670" := by
  intro completed
  constructor
  · exact (pin_hidden (n := completed 0x88 none) rfl (some "12345670")).1
      fun h => absurd h.pushButton (by decide)
  · obtain ⟨a, -, -, hevent⟩ := (pin_hidden (n := completed 0x8 none) rfl (some "12345670")).2
      ⟨rfl, rfl, by decide, by decide, by decide⟩
    exact ⟨_, hevent, rfl⟩

end Notification

end WifiDirect
