import WifiDirect.Text.Quoted

/-!
# Command line

The arguments are read from left to right, and the first that asks for the version or is not
understood decides.
-/

namespace WifiDirect

/-- What the arguments ask for. -/
inductive Command
  | version
  /-- Replay, on an interface if one is chosen. -/
  | replay (interface? : Option String)
  deriving DecidableEq, Repr

/-- Why arguments are not understood. -/
inductive ArgumentError
  | unknown (argument : String)
  | missingInterface
  deriving DecidableEq, Repr

/-- The error in words. -/
def ArgumentError.message : ArgumentError → String
  | .unknown argument => "unknown argument " ++ Text.quoted argument
  | .missingInterface => "--interface needs a value"

namespace Command

/-- Whether an argument asks for the version. -/
def isVersion (argument : String) : Bool :=
  argument == "--version" || argument == "-V"

/-- Whether an argument announces an interface. -/
def isInterface (argument : String) : Bool :=
  argument == "--interface" || argument == "-i"

/-- Reads on with the interface that was chosen so far. -/
def parseFrom (interface? : Option String) : List String → Except ArgumentError Command
  | [] => .ok (.replay interface?)
  | argument :: rest =>
    if isVersion argument then .ok .version
    else if isInterface argument then
      match rest with
      | [] => .error .missingInterface
      | value :: rest => parseFrom (some value) rest
    else .error (.unknown argument)

/-- **What the arguments ask for.** Of several interfaces the last is chosen. -/
def parse (arguments : List String) : Except ArgumentError Command :=
  parseFrom none arguments

end Command

/-- The version of the program. -/
def version : String := "0.1.0"

/-- What is printed of the version. -/
def versionText : String := "p2pmon-linux " ++ version

end WifiDirect
