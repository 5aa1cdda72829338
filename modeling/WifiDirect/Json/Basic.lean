/-!
# JSON values

A value as JSON text writes it: numbers keep their parts, objects keep their members in order and
with repetitions. A string may name half of a surrogate pair and is then no text.
-/

namespace WifiDirect

/-- A number: `whole`, the digits after the point and the power of ten, each as written. -/
structure Json.Number where
  negative : Bool
  whole : Nat
  fraction : List (Fin 10)
  exponent : Option Int
  deriving DecidableEq, Repr

/-- A JSON value. The content of a string or key is `none` where it is not text. -/
inductive Json where
  | null
  | bool (b : Bool)
  | number (n : Json.Number)
  | string (s : Option String)
  | array (items : List Json)
  | object (members : List (Option String × Json))
  deriving Inhabited, Repr

namespace Json

/-- The integer that a number is written as. A point, a power of ten and `-0` write none. -/
def Number.int? (n : Number) : Option Int :=
  match n.fraction, n.exponent with
  | [], none => if n.negative then (if n.whole = 0 then none else some (-n.whole)) else some n.whole
  | _, _ => none

/-- The number that writes an integer. -/
def Number.ofInt (i : Int) : Number :=
  ⟨i < 0, i.natAbs, [], none⟩

@[simp] theorem Number.int?_ofInt (i : Int) : (Number.ofInt i).int? = some i := by
  by_cases h : i < 0
  · have h0 : i ≠ 0 := by omega
    simp only [ofInt, int?, h, decide_true, if_true, Int.natAbs_eq_zero, h0, if_false,
      Option.some.injEq]
    omega
  · simp only [ofInt, int?, h, decide_false, Bool.false_eq_true, if_false, Option.some.injEq]
    omega

/-- An integer as a value. -/
def int (i : Int) : Json := .number (.ofInt i)

/-- A text as a value. -/
def text (s : String) : Json := .string (some s)

/-- An object from named members. -/
def ofMembers (members : List (String × Json)) : Json :=
  .object (members.map fun (name, value) => (some name, value))

/-- The integer that the value is. -/
def int? : Json → Option Int
  | .number n => n.int?
  | _ => none

/-- The text that the value is. -/
def text? : Json → Option String
  | .string s => s
  | _ => none

/-- The truth value that the value is. -/
def bool? : Json → Option Bool
  | .bool b => some b
  | _ => none

/-- The items of an array. -/
def items? : Json → Option (List Json)
  | .array items => some items
  | _ => none

/-- The members of an object, if all keys are text. -/
def members? : Json → Option (List (String × Json))
  | .object members => members.mapM fun (key, value) => key.map (·, value)
  | _ => none

@[simp] theorem int?_int (i : Int) : (int i).int? = some i := Number.int?_ofInt i

@[simp] theorem text?_text (s : String) : (text s).text? = some s := rfl

/-! ### Key order -/

/-- Whether a key may stand before another. -/
def keyLE (a b : Option String) : Bool :=
  match a, b with
  | none, _ => true
  | some _, none => false
  | some a, some b => a ≤ b

mutual

/-- The value with the members of every object in the order of their keys. -/
def sortKeys : Json → Json
  | .array items => .array (sortKeysItems items)
  | .object members => .object ((sortKeysMembers members).mergeSort fun a b => keyLE a.1 b.1)
  | value => value

/-- `sortKeys` on each item. -/
def sortKeysItems : List Json → List Json
  | [] => []
  | value :: rest => sortKeys value :: sortKeysItems rest

/-- `sortKeys` on the value of each member. -/
def sortKeysMembers : List (Option String × Json) → List (Option String × Json)
  | [] => []
  | (key, value) :: rest => (key, sortKeys value) :: sortKeysMembers rest

end

end Json

end WifiDirect
