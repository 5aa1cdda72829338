import WifiDirect.Rejection
import WifiDirect.Text.Split
import WifiDirect.Text.Quoted

/-!
# Addresses

Hardware addresses of six bytes and Internet addresses of four, with their text forms.
-/

namespace WifiDirect

/-- A hardware address: six bytes, never padded or cut. -/
structure Address where
  octets : Bytes
  length_octets : octets.length = 6
  deriving DecidableEq, Repr

namespace Address

/-- The all-zero address, which stands for an unknown one. -/
def zero : Address := ⟨[0, 0, 0, 0, 0, 0], rfl⟩

/-- Whether the address is unknown. -/
def isZero (a : Address) : Bool := a.octets.all (· == 0)

theorem isZero_iff {a : Address} : a.isZero = true ↔ a = zero := by
  constructor
  · intro h
    have hall : ∀ b ∈ a.octets, b = 0 := by simpa [isZero] using h
    have hoctets : a.octets = List.replicate 6 0 :=
      List.eq_replicate_iff.2 ⟨a.length_octets, hall⟩
    cases a
    dsimp only at hoctets
    subst hoctets
    rfl
  · rintro rfl
    rfl

/-- The address in a buffer that `field` supplies. -/
def ofBytes (field : Field) (bs : Bytes) : Except Malformed Address :=
  if h : bs.length = 6 then .ok ⟨bs, h⟩ else .error (.address field bs.length)

/-- The address in a buffer that `field` has to supply. -/
def require (field : Field) : Option Bytes → Except Malformed Address
  | none => .error (.missing field)
  | some bs => ofBytes field bs

theorem ofBytes_eq_ok_iff {field : Field} {bs : Bytes} {a : Address} :
    ofBytes field bs = .ok a ↔ a.octets = bs := by
  unfold ofBytes
  split
  · rw [Except.ok.injEq]
    constructor
    · rintro rfl; rfl
    · rintro rfl; rfl
  · rename_i h
    simp only [reduceCtorEq, false_iff]
    rintro rfl
    exact h a.length_octets

theorem require_eq_ok_iff {field : Field} {buffer : Option Bytes} {a : Address} :
    require field buffer = .ok a ↔ buffer = some a.octets := by
  cases buffer with
  | none => simp [require]
  | some bs =>
    rw [require, ofBytes_eq_ok_iff, Option.some.injEq]
    exact eq_comm

/-! ### Text -/

/-- The address as pairs of lower-case hexadecimal digits between colons. -/
def chars (a : Address) : List Char :=
  Text.join ':' (a.octets.map Bytes.hexPair)

/-- The text of an address. -/
def text (a : Address) : String := String.ofList a.chars

/-- A byte of an address text: two hexadecimal digits, of which a plus sign may replace the first. -/
def octet? : List Char → Option UInt8
  | ['+', low] => (Bytes.hexValue? low).map UInt8.ofNat
  | [high, low] => Bytes.ofHexPair? high low
  | _ => none

/-- The address that a text writes. -/
def parse? (s : String) : Option Address := do
  let octets ← (Text.split ':' s.toList).mapM octet?
  if h : octets.length = 6 then some ⟨octets, h⟩ else none

/-- What is said of a text that writes no address. -/
def parseMessage (s : String) : String :=
  "invalid MAC address string " ++ Text.quoted s

end Address

/-- An Internet address. -/
structure Ipv4 where
  a : UInt8
  b : UInt8
  c : UInt8
  d : UInt8
  deriving DecidableEq, Repr

namespace Ipv4

/-- The four octets in order. -/
def octets (ip : Ipv4) : Bytes := [ip.a, ip.b, ip.c, ip.d]

/-- The address whose octets are the bytes of a word, the least significant first. -/
def ofWord (w : UInt32) : Ipv4 :=
  ⟨w.toUInt8, (w >>> 8).toUInt8, (w >>> 16).toUInt8, (w >>> 24).toUInt8⟩

/-- The octets of a word's address are its bytes, the least significant first. -/
theorem octets_ofWord (w : UInt32) : (ofWord w).octets = Bytes.littleEndian 4 w.toNat := by
  have hoctet : ∀ k : UInt32, (w >>> k).toUInt8 = UInt8.ofNat (w.toNat / 2 ^ (k.toNat % 32)) := by
    intro k
    apply UInt8.toNat.inj
    rw [UInt32.toNat_toUInt8, UInt32.toNat_shiftRight, Nat.shiftRight_eq_div_pow,
      UInt8.toNat_ofNat']
  show [w.toUInt8, (w >>> 8).toUInt8, (w >>> 16).toUInt8, (w >>> 24).toUInt8] =
    [UInt8.ofNat w.toNat, UInt8.ofNat (w.toNat / 256), UInt8.ofNat (w.toNat / 256 / 256),
      UInt8.ofNat (w.toNat / 256 / 256 / 256)]
  rw [hoctet, hoctet, hoctet, Nat.div_div_eq_div_mul, Nat.div_div_eq_div_mul]
  rfl

/-- The address with these octets. -/
def ofOctets? : Bytes → Option Ipv4
  | [a, b, c, d] => some ⟨a, b, c, d⟩
  | _ => none

@[simp] theorem ofOctets?_octets (ip : Ipv4) : ofOctets? ip.octets = some ip := rfl

/-- Four decimal numbers between dots. -/
def chars (ip : Ipv4) : List Char :=
  Text.join '.' (ip.octets.map fun b => Nat.toDigits 10 b.toNat)

/-- The text of an address. -/
def text (ip : Ipv4) : String := String.ofList ip.chars

/-- A decimal number below 256 without a zero in front. -/
def octet? (cs : List Char) : Option UInt8 :=
  let n := Nat.ofDigitChars 10 cs 0
  if cs ≠ [] ∧ cs.all Char.isDigit ∧ (cs.head? = some '0' → cs.length = 1) ∧ n < 256 then
    some (UInt8.ofNat n)
  else none

/-- The address that a text writes. -/
def parse? (s : String) : Option Ipv4 := do
  ofOctets? (← (Text.split '.' s.toList).mapM octet?)

end Ipv4

end WifiDirect
