import WifiDirect.Proofs.Decoding

/-!
# Which notifications are accepted

`Notification.event_decided`: a notification has an event exactly if it is acceptable, an unknown
status is reported exactly where one is reached, and in every case the error is the first fault.

That there is no fault is said field by field (`addressFaults_eq_nil_iff` and its like), then for
each report, and so for the notifications.
-/

namespace WifiDirect

/-! ### Fields -/

/-- A fault that is reported unless a condition holds. -/
theorem ite_nil_singleton_eq_nil_iff {ε : Type} {p : Prop} [Decidable p] {fault : ε} :
    (if p then [] else [fault]) = [] ↔ p := by
  by_cases h : p
  · rw [if_pos h]
    exact iff_of_true rfl h
  · rw [if_neg h]
    exact iff_of_false nofun h

theorem addressFaults_eq_nil_iff {field : Field} {buffer? : Option Bytes} :
    addressFaults field buffer? = [] ↔ HasLength 6 buffer? := by
  cases buffer? with
  | none => exact iff_of_false nofun nofun
  | some bs =>
    rw [addressFaults, HasLength, Option.map_some, Option.some.injEq, ite_nil_singleton_eq_nil_iff]

theorem missingFaults_eq_nil_iff {α : Type} {field : Field} {content? : Option α} :
    missingFaults field content? = [] ↔ content?.isSome := by
  cases content? with
  | none => exact iff_of_false nofun nofun
  | some a => exact iff_of_true rfl rfl

/-- A device type has no fault if it is supplied with eight bytes. -/
theorem deviceTypeFaults_eq_nil_iff {buffer? : Option Bytes} :
    missingFaults .deviceType buffer? = [] ∧ deviceTypeFaults buffer? = [] ↔
      HasLength 8 buffer? := by
  cases buffer? with
  | none => exact iff_of_false (nomatch ·.1) nofun
  | some bs =>
    rw [deviceTypeFaults, HasLength, Option.map_some, Option.some.injEq,
      ite_nil_singleton_eq_nil_iff]
    exact and_iff_right rfl

theorem groupStatusFaults_eq_nil_iff {status : Int32} :
    groupStatusFaults status = [] ↔ 0 ≤ status.toInt ∧ status.toInt ≤ 12 := by
  rw [groupStatusFaults, ite_nil_singleton_eq_nil_iff]

theorem provisionStatusFaults_eq_nil_iff {status : UInt8} :
    provisionStatusFaults status = [] ↔ status.toNat ≤ 4 := by
  rw [provisionStatusFaults, ← ite_not, ite_nil_singleton_eq_nil_iff, Nat.not_lt]

theorem methodsFaults_eq_nil_iff {methods : UInt16} :
    methodsFaults methods = [] ↔ OffersSetup methods := by
  rw [methodsFaults, ite_nil_singleton_eq_nil_iff]

/-! ### Reports -/

/-- Both addresses, the type and the name of the device are supplied, and have their lengths. -/
def Sighting.Acceptable (s : Sighting) : Prop :=
  HasLength 6 s.sourceAddress? ∧ HasLength 6 s.peerAddress? ∧ HasLength 8 s.deviceType? ∧
    s.deviceName?.isSome

theorem Sighting.faults_eq_nil_iff {s : Sighting} : s.faults = [] ↔ s.Acceptable := by
  rw [faults, Acceptable, ← deviceTypeFaults_eq_nil_iff]
  simp only [List.append_eq_nil_iff, addressFaults_eq_nil_iff, missingFaults_eq_nil_iff]
  constructor
  · rintro ⟨hsource, hpeer, htype, hname, hlength⟩
    exact ⟨hsource, hpeer, ⟨htype, hlength⟩, hname⟩
  · rintro ⟨hsource, hpeer, ⟨htype, hlength⟩, hname⟩
    exact ⟨hsource, hpeer, htype, hname, hlength⟩

/-- The interface has a name that is not empty, and there are a network name and an address of the
owner. -/
def GroupStart.Acceptable (s : GroupStart) : Prop :=
  (∃ name, s.interface? = some name ∧ name ≠ "") ∧ s.ssid?.isSome ∧ HasLength 6 s.ownerAddress?

theorem GroupStart.faults_eq_nil_iff {s : GroupStart} : s.faults = [] ↔ s.Acceptable := by
  have hname : (s.interface?.filter (· ≠ "")).isSome ↔
      ∃ name, s.interface? = some name ∧ name ≠ "" := by
    rw [Option.isSome_iff_exists]
    simp only [Option.filter_eq_some_iff, decide_eq_true_eq]
  rw [faults, Acceptable, List.append_eq_nil_iff, List.append_eq_nil_iff, missingFaults_eq_nil_iff,
    missingFaults_eq_nil_iff, addressFaults_eq_nil_iff, hname]

/-- There is an address and a known status, and after a success a method that can be served. -/
def ProvisionReport.Acceptable (r : ProvisionReport) : Prop :=
  HasLength 6 r.peerAddress? ∧ r.status.toNat ≤ 4 ∧ (r.status = 0 → OffersSetup r.methods)

theorem ProvisionReport.faults_eq_nil_iff {r : ProvisionReport} :
    r.faults = [] ↔ r.Acceptable := by
  rw [faults, Acceptable, List.append_eq_nil_iff, List.append_eq_nil_iff, List.map_eq_nil_iff,
    addressFaults_eq_nil_iff, provisionStatusFaults_eq_nil_iff, ite_eq_right_iff,
    List.map_eq_nil_iff, methodsFaults_eq_nil_iff]

/-- There is an address, and if it is all zero one that the station sends from. -/
def Station.Acceptable (s : Station) : Prop :=
  HasLength 6 s.peerAddress? ∧
    (s.peerAddress? = some [0, 0, 0, 0, 0, 0] → HasLength 6 s.sourceAddress?)

theorem Station.faults_eq_nil_iff {s : Station} : s.faults = [] ↔ s.Acceptable := by
  rw [faults, Acceptable, List.append_eq_nil_iff, addressFaults_eq_nil_iff, ite_eq_right_iff,
    addressFaults_eq_nil_iff]
  rfl

/-! ### Notifications -/

namespace Notification

/-- **What a notification has to supply.** -/
def Acceptable : Notification → Prop
  | .deviceFound s => s.Acceptable
  | .deviceFoundWithElements s | .deviceFoundWithParams s => s.toSighting.Acceptable
  | .deviceLost address? | .negotiationRequest address? _ | .serviceResponse address? _ _ =>
    HasLength 6 address?
  | .negotiationCompleted status | .invitationResult _ status =>
    0 ≤ status.toInt ∧ status.toInt ≤ 12
  | .groupStarted s => s.Acceptable
  | .groupStartedWithParams s => s.toGroupStart.Acceptable
  | .provisionCompleted r => r.Acceptable
  | .provisionCompletedWithParams r => r.toProvisionReport.Acceptable
  | .invitationReceived i => HasLength 6 i.sourceAddress? ∧ HasLength 6 i.ownerAddress?
  | .stationAuthorized s | .stationDeauthorized s => s.Acceptable
  | .findStopped | .formationSuccess | .formationFailure _ | .groupRemoved .. => True

theorem faults_eq_nil_iff (c : Notification) : c.faults = [] ↔ c.Acceptable := by
  cases c with
  | deviceFound | deviceFoundWithElements | deviceFoundWithParams =>
    exact List.map_eq_nil_iff.trans Sighting.faults_eq_nil_iff
  | deviceLost | negotiationRequest | serviceResponse =>
    exact List.map_eq_nil_iff.trans addressFaults_eq_nil_iff
  | negotiationCompleted | invitationResult => exact groupStatusFaults_eq_nil_iff
  | groupStarted | groupStartedWithParams =>
    exact List.map_eq_nil_iff.trans GroupStart.faults_eq_nil_iff
  | provisionCompleted | provisionCompletedWithParams => exact ProvisionReport.faults_eq_nil_iff
  | invitationReceived i =>
    rw [faults, Acceptable, List.map_eq_nil_iff, Invitation.faults, List.append_eq_nil_iff,
      addressFaults_eq_nil_iff, addressFaults_eq_nil_iff]
  | stationAuthorized | stationDeauthorized =>
    exact List.map_eq_nil_iff.trans Station.faults_eq_nil_iff
  | findStopped | formationSuccess | formationFailure | groupRemoved =>
    exact iff_of_true rfl trivial

end Notification

/-! ### Unknown statuses -/

/-- A provision report has a status that is in no table, and this is looked at: the address is
there. -/
def ProvisionReport.StatusUnknown (r : ProvisionReport) (table : StatusTable) (value : Int32) :
    Prop :=
  table = .provision ∧ value.toInt = r.status.toNat ∧ HasLength 6 r.peerAddress? ∧
    4 < r.status.toNat

/-- **A status that a notification reports is in no table.** -/
def Notification.StatusUnknown (c : Notification) (table : StatusTable) (value : Int32) : Prop :=
  match c with
  | .negotiationCompleted status | .invitationResult _ status =>
    table = .group ∧ value = status ∧ ¬ (0 ≤ status.toInt ∧ status.toInt ≤ 12)
  | .provisionCompleted r => r.StatusUnknown table value
  | .provisionCompletedWithParams r => r.toProvisionReport.StatusUnknown table value
  | _ => False

variable {table : StatusTable} {value : Int32}

theorem head?_map_dropped_ne {callback : String} {reasons : List Malformed} :
    (reasons.map (Rejection.dropped callback)).head? ≠ some (.unmapped table value) := by
  cases reasons with
  | nil => exact (Option.some_ne_none _).symm
  | cons reason rest =>
    rw [List.map_cons, List.head?_cons, ne_eq, Option.some.injEq]
    exact nofun

theorem head?_groupStatusFaults_iff {status : Int32} :
    (groupStatusFaults status).head? = some (.unmapped table value) ↔
      table = .group ∧ value = status ∧ ¬ (0 ≤ status.toInt ∧ status.toInt ≤ 12) := by
  rw [groupStatusFaults]
  by_cases h : 0 ≤ status.toInt ∧ status.toInt ≤ 12
  · rw [if_pos h]
    exact iff_of_false (Option.some_ne_none _).symm fun hunknown => hunknown.2.2 h
  · rw [if_neg h, List.head?_cons, Option.some.injEq, Rejection.unmapped.injEq, eq_comm,
      @eq_comm _ status value, and_iff_left h]

theorem ProvisionReport.head?_faults_iff {r : ProvisionReport} :
    r.faults.head? = some (.unmapped table value) ↔ r.StatusUnknown table value := by
  have hvalue : value = Int32.ofNat r.status.toNat ↔ value.toInt = r.status.toNat := by
    have hlt := r.status.toNat_lt
    rw [← Int32.toInt_inj, Int32.toInt_ofNat_of_lt (by omega)]
  rw [faults, StatusUnknown]
  -- whether the status is looked at at all depends on the address in front of it
  cases haddress : addressFaults .peerAddress r.peerAddress? with
  | cons reason rest =>
    refine iff_of_false nofun fun hunknown => ?_
    rw [addressFaults_eq_nil_iff.2 hunknown.2.2.1] at haddress
    cases haddress
  | nil =>
    have hlength := addressFaults_eq_nil_iff.1 haddress
    rw [List.map_nil, List.nil_append, provisionStatusFaults]
    by_cases hstatus : 4 < r.status.toNat
    · have hreached : HasLength 6 r.peerAddress? ∧ 4 < r.status.toNat := ⟨hlength, hstatus⟩
      rw [if_pos hstatus, List.cons_append, List.head?_cons, Option.some.injEq,
        Rejection.unmapped.injEq, eq_comm, @eq_comm _ _ value, hvalue, and_iff_left hreached]
    · rw [if_neg hstatus, List.nil_append]
      refine iff_of_false ?_ fun hunknown => hstatus hunknown.2.2.2
      split
      · exact head?_map_dropped_ne
      · exact (Option.some_ne_none _).symm

theorem Notification.head?_faults_iff (c : Notification) :
    c.faults.head? = some (.unmapped table value) ↔ c.StatusUnknown table value := by
  cases c with
  | negotiationCompleted | invitationResult => exact head?_groupStatusFaults_iff
  | provisionCompleted | provisionCompletedWithParams => exact ProvisionReport.head?_faults_iff
  | findStopped | formationSuccess | formationFailure | groupRemoved =>
    exact iff_of_false (Option.some_ne_none _).symm id
  | _ => exact iff_of_false head?_map_dropped_ne id

/-- **A notification has an event exactly if it is acceptable**, a status is reported as unknown
exactly if it is in no table and nothing in front of it is missing, and the error is always the
first of the faults. -/
theorem Notification.event_decided (c : Notification) :
    ((∃ event, c.event = .ok event) ↔ c.Acceptable) ∧
      (∀ table value, c.event = .error (.unmapped table value) ↔ c.StatusUnknown table value) ∧
      ∀ rejection, c.event = .error rejection ↔ c.faults.head? = some rejection :=
  have hchecked := c.checked_event
  ⟨hchecked.exists_eq_ok_iff.trans c.faults_eq_nil_iff,
    fun _ _ => hchecked.eq_error_iff.trans c.head?_faults_iff, fun _ => hchecked.eq_error_iff⟩

/-- A status that is in no table is not looked at where there is no address. -/
example : (Notification.provisionCompleted ⟨some [2, 0, 0], false, 9, 0, none⟩).event =
    .error (.dropped "onProvisionDiscoveryCompleted" (.address .peerAddress 3)) :=
  rfl

end WifiDirect
