import WifiDirect.Layout.Basic

/-!
# Layouts of choices

A value that belongs to one of several cases is written as the number or name of its case and what
the case carries.
-/

namespace WifiDirect

/-- One case of a choice. The functions that write answer `none` for the values of other cases. -/
structure Case (α : Type) where
  /-- The name of the case in JSON. -/
  name : String
  /-- The bytes of what the value carries. -/
  encode? : α → Option Bytes
  /-- The value of this case at the front and what follows it. -/
  decode : Bytes → Except Fault (α × Bytes)
  /-- What the value carries as JSON, `none` within where it carries nothing. -/
  toJson? : α → Option (Option Json)
  /-- The value of this case that carries what JSON writes. -/
  ofJson? : Option Json → Option α

namespace Case

variable {α β : Type}

/-- A case with one value, which carries nothing. `null` may stand for the nothing. -/
def bare (name : String) (a : α) (isCase : α → Bool) : Case α where
  name := name
  encode? v := if isCase v then some [] else none
  decode bs := .ok (a, bs)
  toJson? v := if isCase v then some none else none
  ofJson?
    | none => some a
    | some .null => some a
    | some _ => none

/-- A case whose values carry a value of another type. -/
def carrying (name : String) (l : Layout β) (build : β → α) (content? : α → Option β) : Case α where
  name := name
  encode? v := (content? v).map l.encode
  decode bs := do
    let (b, rest) ← l.decode bs
    return (build b, rest)
  toJson? v := (content? v).map fun b => some (l.toJson b)
  ofJson?
    | none => none
    | some json => (l.ofJson? json).map build

/-- The number of the case and the bytes of what the value carries, the first case being
number `n`. -/
def encodeFrom (n : Nat) (a : α) : List (Case α) → Bytes
  | [] => []
  | case :: rest =>
    match case.encode? a with
    | some content => Bytes.littleEndian 4 n ++ content
    | none => encodeFrom (n + 1) a rest

/-- The name of the case, alone or as the key of what the value carries. -/
def toJson (a : α) : List (Case α) → Json
  | [] => .null
  | case :: rest =>
    match case.toJson? a with
    | some none => .text case.name
    | some (some content) => .ofMembers [(case.name, content)]
    | none => toJson a rest

/-- The value of the case with this name. -/
def ofNamed? (name : String) (content : Option Json) (cases : List (Case α)) : Option α := do
  let case ← cases.find? fun case => case.name == name
  case.ofJson? content

end Case

/-- A value of one of several cases. -/
def Layout.choice {α : Type} (cases : List (Case α)) : Layout α where
  encode a := Case.encodeFrom 0 a cases
  decode bs := do
    let (n, rest) ← decodeWord 4 bs
    match cases[n]? with
    | some case => case.decode rest
    | none => .error (.badCase n cases.length)
  toJson a := Case.toJson a cases
  ofJson?
    | .string (some name) => Case.ofNamed? name none cases
    | .object [(some name, content)] => Case.ofNamed? name (some content) cases
    | _ => none
  absent := none

/-- One of several named values. -/
def Layout.enumeration {α : Type} [BEq α] (values : List α) (name : α → String) : Layout α :=
  .choice (values.map fun v => .bare (name v) v (· == v))

end WifiDirect
