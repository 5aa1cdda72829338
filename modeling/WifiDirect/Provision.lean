import WifiDirect.Peer

/-!
# Provisioning

How a peer wants to set up the connection, and what came of asking it.
-/

namespace WifiDirect

/-! ### Setup methods -/

/-- How a connection is set up. -/
inductive Setup
  | pushButton
  | display
  | keypad
  deriving DecidableEq, Repr

/-- The setup as JSON names it. -/
def Setup.name : Setup → String
  | .pushButton => "Pbc"
  | .display => "Display"
  | .keypad => "Keypad"

/-- The setup that a password id asks for. An unknown id asks for the push button. -/
def Setup.ofPasswordId (id : Int32) : Setup :=
  if id = 1 then .display else if id = 5 then .keypad else .pushButton

/-- The layout of a setup. -/
def Setup.layout : Layout Setup :=
  .enumeration [.pushButton, .display, .keypad] name

/-! ### Outcomes -/

/-- Why provisioning failed. -/
inductive ProvisionFailure
  | timeout
  | rejected
  | timeoutJoin
  | infoUnavailable
  deriving DecidableEq, Repr

namespace ProvisionFailure

/-- The reason as JSON names it. -/
def name : ProvisionFailure → String
  | .timeout => "Timeout"
  | .rejected => "Rejected"
  | .timeoutJoin => "TimeoutJoin"
  | .infoUnavailable => "InfoUnavailable"

/-- The layout of a reason. -/
def layout : Layout ProvisionFailure :=
  .enumeration [.timeout, .rejected, .timeoutJoin, .infoUnavailable] name

/-- The reason that a status gives, none where it reports success. -/
def ofStatus (status : UInt8) : Except Rejection (Option ProvisionFailure) :=
  match status.toNat with
  | 0 => .ok none
  | 1 => .ok (some .timeout)
  | 2 => .ok (some .rejected)
  | 3 => .ok (some .timeoutJoin)
  | 4 => .ok (some .infoUnavailable)
  | n => .error (.unmapped .provision (Int32.ofNat n))

end ProvisionFailure

/-- What came of provisioning. -/
inductive Outcome
  | enterPin
  | showPin (pin : String)
  | pushButtonRequest
  | pushButtonResponse
  | failure (reason : ProvisionFailure)
  deriving DecidableEq, Repr

namespace Outcome

/-- The bit of the push-button method. -/
def pushButtonBit : UInt16 := 0x0080

/-- The bit of the keypad method. -/
def keypadBit : UInt16 := 0x0100

/-- The bit of the display method. -/
def displayBit : UInt16 := 0x0008

/-- What a success means by the methods that the peer offers. Only with the push button does it
matter who asked. -/
def ofMethods (methods : UInt16) (isRequest : Bool) (pin : String) : Except Malformed Outcome :=
  if methods &&& pushButtonBit ≠ 0 then
    .ok (if isRequest then .pushButtonRequest else .pushButtonResponse)
  else if methods &&& keypadBit ≠ 0 then .ok .enterPin
  else if methods &&& displayBit ≠ 0 then .ok (.showPin pin)
  else .error (.methods methods)

/-- The layout of an outcome. -/
def layout : Layout Outcome :=
  .choice [
    .bare "EnterPin" .enterPin (· matches .enterPin),
    .carrying "ShowPin" .text .showPin fun
      | .showPin pin => some pin
      | _ => none,
    .bare "PbcRequest" .pushButtonRequest (· matches .pushButtonRequest),
    .bare "PbcResponse" .pushButtonResponse (· matches .pushButtonResponse),
    .carrying "Failure" ProvisionFailure.layout .failure fun
      | .failure reason => some reason
      | _ => none]

end Outcome

/-- A peer that was asked for provisioning, and what came of it. -/
structure Provision where
  device : Peer
  outcome : Outcome
  groupInterface? : Option String
  deriving DecidableEq, Repr

/-- The layout of a provisioning. -/
def Provision.layout : Layout Provision :=
  .record
    (.cons "device" Peer.layout <| .cons "outcome" Outcome.layout <|
      .cons "group_interface" (.optional .text) .nil)
    .exact
    (fun p => (p.device, p.outcome, p.groupInterface?, ()))
    (fun (device, outcome, groupInterface?, ()) => { device, outcome, groupInterface? })

end WifiDirect
