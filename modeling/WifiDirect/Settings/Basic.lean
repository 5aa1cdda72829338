import WifiDirect.Text.Quoted

/-!
# Settings

What a user may choose: the interface that notifications belong to, how events are put out, and
which records are kept.
-/

namespace WifiDirect

/-- How events are put out. -/
inductive Output
  /-- As log records. -/
  | log
  /-- As lines of JSON. -/
  | json
  deriving DecidableEq, Repr

namespace Output

/-- The output as answers name it. -/
def name : Output → String
  | .log => "Log"
  | .json => "Json"

/-- The output that a word names. -/
def parse? (s : String) : Option Output :=
  if s = "log" then some .log
  else if s = "json" then some .json
  else none

/-- What is said of a word that names no output. -/
def parseMessage (s : String) : String :=
  "unknown output " ++ Text.quoted s

end Output

/-- The settings in force. -/
structure Settings where
  interface : String
  output : Output
  logFilter : String
  deriving DecidableEq, Repr

/-- The settings where nothing is chosen. -/
def Settings.default : Settings where
  interface := "p2p0"
  output := .log
  logFilter := "info"

end WifiDirect
