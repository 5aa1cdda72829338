import WifiDirect.Text.Unprintable

/-!
# Quoted text

A text between double quotes, such that it can be read on one line: quote and backslash are escaped,
and what has no printed form of its own is named by its code point.
-/

namespace WifiDirect.Text

/-- A character as it stands between the quotes. -/
def quotedChar (c : Char) : List Char :=
  match c with
  | '\x00' => ['\\', '0']
  | '\t' => ['\\', 't']
  | '\n' => ['\\', 'n']
  | '\r' => ['\\', 'r']
  | '"' => ['\\', '"']
  | '\\' => ['\\', '\\']
  | c =>
    if isUnprintable c then
      ['\\', 'u', '{'] ++ Nat.toDigits 16 c.toNat ++ ['}']
    else [c]

/-- **A text in double quotes.** -/
def quoted (s : String) : String :=
  String.ofList (['"'] ++ s.toList.flatMap quotedChar ++ ['"'])

end WifiDirect.Text
