import WifiDirect.Text.Utf8
import WifiDirect.Address

/-!
# Faults

What can be wrong with the bytes of a value.
-/

namespace WifiDirect

/-- What is wrong with the bytes of a value. -/
inductive Fault
  /-- The bytes end inside a number, a mark or an item. -/
  | endOfBytes
  /-- A text claims more bytes than there are. -/
  | textTooLong
  /-- A truth value is neither 0 nor 1. -/
  | badBool (found : UInt8)
  /-- The mark of an optional value is neither 0 nor 1. -/
  | badMark (found : UInt8)
  /-- No case has this number. -/
  | badCase (found count : Nat)
  /-- A text is no UTF-8. -/
  | badText (error : Utf8.Error)
  /-- A text writes no address. -/
  | badAddress (text : String)
  deriving DecidableEq, Repr

/-- The fault in words. -/
def Fault.message : Fault → String
  | .endOfBytes => "io error: unexpected end of file"
  | .textTooLong => "io error: "
  | .badBool found =>
    "invalid u8 while decoding bool, expected 0 or 1, found " ++ toString found.toNat
  | .badMark found => "tag for enum is not valid, found " ++ toString found.toNat
  | .badCase found count =>
    "invalid value: integer `" ++ toString found ++ "`, expected variant index 0 <= i < " ++
      toString count
  | .badText error => "string is not valid utf8: " ++ error.message
  | .badAddress text => Address.parseMessage text

end WifiDirect
