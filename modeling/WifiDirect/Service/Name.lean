import WifiDirect.Text.Utf8

/-!
# Service names

A name is a run of labels, each after its length, that ends in a zero byte or in a pointer. Pointers
stand for well-known suffixes, and in an answer for the name that was asked for.
-/

namespace WifiDirect.Service

/-- The byte that ends a name. -/
def endByte : UInt8 := 0x00

/-- The byte that announces a pointer. -/
def pointerByte : UInt8 := 0xC0

/-- The key that points to the name that was asked for. -/
def queryKey : UInt8 := 0x27

/-- The suffix that a pointer stands for; `query?` is the name that was asked for. -/
def suffix? (query? : Option String) (key : UInt8) : Option String :=
  if key = 0x0C then some "_tcp.local."
  else if key = 0x11 then some "local."
  else if key = 0x1C then some "_udp.local."
  else if key = queryKey then query?
  else none

/-- **The name at the front and what follows it.** Each label ends in a dot. -/
def readName? (query? : Option String) (bs : Bytes) : Option (String × Bytes) :=
  match bs with
  | [] => none
  | b :: rest =>
    if b = endByte then some ("", rest)
    else if b = pointerByte then
      match rest with
      | [] => none
      | key :: rest => (suffix? query? key).map (·, rest)
    else
      match _h : Bytes.splitExact b.toNat rest with
      | none => none
      | some (label, rest') =>
        match readName? query? rest' with
        | none => none
        | some (name, rest) => some (Utf8.lossyText label ++ "." ++ name, rest)
  termination_by bs.length
  decreasing_by
    have := congrArg List.length (Bytes.splitExact_eq_some_iff.1 _h).2
    simp only [List.length_append, List.length_cons] at this ⊢
    omega

end WifiDirect.Service
