import WifiDirect.Json.Basic

/-!
# Writing JSON text

A value without blanks: members in their order, and in strings only what has to be escaped.
-/

namespace WifiDirect.Json

/-- The last four hexadecimal digits of a number. -/
def fourDigits (n : Nat) : List Char :=
  [Nat.digitChar (n / 4096 % 16), Nat.digitChar (n / 256 % 16), Nat.digitChar (n / 16 % 16),
    Nat.digitChar (n % 16)]

/-- A character as it stands in a string: quote, backslash and the characters below U+0020 are
escaped. -/
def escape (c : Char) : List Char :=
  match c with
  | '"' => ['\\', '"']
  | '\\' => ['\\', '\\']
  | '\x08' => ['\\', 'b']
  | '\x0c' => ['\\', 'f']
  | '\n' => ['\\', 'n']
  | '\r' => ['\\', 'r']
  | '\t' => ['\\', 't']
  | c => if c < ' ' then ['\\', 'u'] ++ fourDigits c.toNat else [c]

/-- A string between its quotes. Where it is no text, half of a surrogate pair stands for it. -/
def renderString : Option String → List Char
  | some s => '"' :: s.toList.flatMap escape ++ ['"']
  | none => ['"', '\\', 'u', 'd', '8', '0', '0', '"']

/-- A number from its parts. -/
def Number.render (n : Number) : List Char :=
  (if n.negative then ['-'] else []) ++ Nat.toDigits 10 n.whole ++
    (match n.fraction with
      | [] => []
      | digits => '.' :: digits.map fun d => Nat.digitChar d.val) ++
    (match n.exponent with
      | none => []
      | some i => 'e' :: (if i < 0 then ['-'] else []) ++ Nat.toDigits 10 i.natAbs)

mutual

/-- **The text of a value.** -/
def render : Json → List Char
  | .null => ['n', 'u', 'l', 'l']
  | .bool true => ['t', 'r', 'u', 'e']
  | .bool false => ['f', 'a', 'l', 's', 'e']
  | .number n => n.render
  | .string s => renderString s
  | .array items => '[' :: renderItems items ++ [']']
  | .object members => '{' :: renderMembers members ++ ['}']

/-- Items with commas between them. -/
def renderItems : List Json → List Char
  | [] => []
  | [value] => render value
  | value :: rest => render value ++ ',' :: renderItems rest

/-- Members with commas between them. -/
def renderMembers : List (Option String × Json) → List Char
  | [] => []
  | [(key, value)] => renderString key ++ ':' :: render value
  | (key, value) :: rest => renderString key ++ ':' :: render value ++ ',' :: renderMembers rest

end

/-- The text of a value as a string. -/
def toText (value : Json) : String :=
  String.ofList value.render

end WifiDirect.Json
