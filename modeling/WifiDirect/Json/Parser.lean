import WifiDirect.Json.Token

/-!
# Reading JSON text

A machine that takes one token at a time and keeps the arrays and objects it is inside on a stack,
so that nesting has no limit. `Json.parse?` accepts a text that is exactly one value between blanks.
-/

namespace WifiDirect.Json

/-- An array or object that is being read, last item or member first. -/
inductive Frame
  | array (items : List Json)
  | object (members : List (Option String × Json)) (key : Option String)
  deriving Repr

/-- What has been read and what may follow. -/
inductive State
  /-- A value has to follow. -/
  | value (stack : List Frame)
  /-- The first item of an array, or its end. -/
  | firstItem (stack : List Frame)
  /-- The first key of an object, or its end. -/
  | firstKey (stack : List Frame)
  /-- A further key of an object. -/
  | key (members : List (Option String × Json)) (stack : List Frame)
  /-- The colon after a key. -/
  | colon (members : List (Option String × Json)) (key : Option String) (stack : List Frame)
  /-- A value is complete; what follows depends on where it stands. -/
  | after (value : Json) (stack : List Frame)
  deriving Repr

/-- A token where a value has to begin. -/
def State.begin (stack : List Frame) : Token → Option State
  | .null => some (.after .null stack)
  | .bool b => some (.after (.bool b) stack)
  | .number n => some (.after (.number n) stack)
  | .string s => some (.after (.string s) stack)
  | .beginArray => some (.firstItem stack)
  | .beginObject => some (.firstKey stack)
  | _ => none

/-- One token further, unless it may not stand here. -/
def State.step : State → Token → Option State
  | .value stack, token => begin stack token
  | .firstItem stack, .endArray => some (.after (.array []) stack)
  | .firstItem stack, token => begin (.array [] :: stack) token
  | .firstKey stack, .endObject => some (.after (.object []) stack)
  | .firstKey stack, .string name => some (.colon [] name stack)
  | .key members stack, .string name => some (.colon members name stack)
  | .colon members name stack, .colon => some (.value (.object members name :: stack))
  | .after v (.array items :: stack), .comma => some (.value (.array (v :: items) :: stack))
  | .after v (.array items :: stack), .endArray => some (.after (.array (v :: items).reverse) stack)
  | .after v (.object members name :: stack), .comma => some (.key ((name, v) :: members) stack)
  | .after v (.object members name :: stack), .endObject =>
    some (.after (.object ((name, v) :: members).reverse) stack)
  | _, _ => none

/-- Reads a text to its end. -/
def State.run (state : State) (cs : List Char) : Option State :=
  match cs with
  | [] => some state
  | c :: rest =>
    if isBlank c then state.run rest
    else
      match _h : Token.read? (c :: rest) with
      | none => none
      | some (token, rest') =>
        match state.step token with
        | none => none
        | some next => next.run rest'
  termination_by cs.length
  decreasing_by
    · simp
    · exact Token.length_lt_of_read? _h

/-- **The value that a text writes**, if it writes one and nothing else. -/
def parse? (cs : List Char) : Option Json :=
  match (State.value []).run cs with
  | some (.after value []) => some value
  | _ => none

end WifiDirect.Json
