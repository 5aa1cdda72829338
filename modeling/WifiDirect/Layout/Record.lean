import WifiDirect.Layout.Basic

/-!
# Layouts of records

A record is its fields one after the other. In JSON it is an object, whose members may stand in any
order and among others, or an array of the fields in their order.
-/

namespace WifiDirect

/-- The named fields of a record, whose values together are a nested pair. -/
structure Fields (β : Type) where
  /-- The names in the order of writing. -/
  names : List String
  /-- The bytes of all fields. -/
  encode : β → Bytes
  /-- The values at the front and what follows them. -/
  decode : Bytes → Except Fault (β × Bytes)
  /-- The members of the object. -/
  toMembers : β → List (String × Json)
  /-- The values, given what is written at each name. -/
  ofMembers? : (String → Option Json) → Option β

namespace Fields

variable {α β : Type}

/-- No field. -/
def nil : Fields Unit where
  names := []
  encode _ := []
  decode bs := .ok ((), bs)
  toMembers _ := []
  ofMembers? _ := some ()

/-- One more field in front. -/
def cons (name : String) (l : Layout α) (rest : Fields β) : Fields (α × β) where
  names := name :: rest.names
  encode v := l.encode v.1 ++ rest.encode v.2
  decode bs := do
    let (a, bs) ← l.decode bs
    let (b, bs) ← rest.decode bs
    return ((a, b), bs)
  toMembers v := (name, l.toJson v.1) :: rest.toMembers v.2
  ofMembers? written := do
    let a ← match written name with
      | some json => l.ofJson? json
      | none => l.absent
    let b ← rest.ofMembers? written
    return (a, b)

@[simp] theorem names_cons (name : String) (l : Layout α) (rest : Fields β) :
    (cons name l rest).names = name :: rest.names := rfl

end Fields

/-- Whether an array may stand for a record although its last fields are missing. -/
inductive Arity
  | exact
  | atMost
  deriving DecidableEq, Repr

/-- What is written at each name. In an object all keys are texts and none of the names is
repeated; what stands at other keys is passed over. -/
def Json.fields? (names : List String) (arity : Arity) : Json → Option (String → Option Json)
  | .object members =>
    if members.all (fun m => m.1.isSome) ∧
        names.all (fun name => (members.filter fun m => m.1 == some name).length ≤ 1) then
      some fun name => members.lookup (some name)
    else none
  | .array items =>
    if items.length = names.length ∨ arity = .atMost ∧ items.length ≤ names.length then
      some fun name => (names.zip items).lookup name
    else none
  | _ => none

/-- A record, taken apart into the values of its fields and built from them. -/
def Layout.record {α β : Type} (fields : Fields β) (arity : Arity) (parts : α → β) (build : β → α) :
    Layout α where
  encode a := fields.encode (parts a)
  decode bs := do
    let (b, rest) ← fields.decode bs
    return (build b, rest)
  toJson a := .ofMembers (fields.toMembers (parts a))
  ofJson? json := do
    let written ← json.fields? fields.names arity
    let b ← fields.ofMembers? written
    return build b
  absent := none

end WifiDirect
