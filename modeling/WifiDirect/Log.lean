/-!
# Log records

What the monitor reports about its own work: a level, a message and named values.
-/

namespace WifiDirect

/-- How much a record matters. -/
inductive Level
  | trace
  | debug
  | info
  | warn
  deriving DecidableEq, Repr

/-- The level as records name it. -/
def Level.name : Level → String
  | .trace => "TRACE"
  | .debug => "DEBUG"
  | .info => "INFO"
  | .warn => "WARN"

/-- A value in a record. -/
inductive LogValue
  | int (i : Int)
  | bool (b : Bool)
  | text (s : String)
  deriving DecidableEq, Repr

/-- A log record. -/
structure LogRecord where
  level : Level
  message : String
  fields : List (String × LogValue)
  deriving DecidableEq, Repr

/-- Whether a record has a field. The message is a field of every record. -/
def LogRecord.hasField (r : LogRecord) (name : String) : Bool :=
  name == "message" || r.fields.any (·.1 == name)

/-- A value as text. -/
def LogValue.render : LogValue → String
  | .int i => toString i
  | .bool b => if b then "true" else "false"
  | .text s => s

/-- A record on one line. -/
def LogRecord.render (r : LogRecord) : String :=
  r.level.name ++ " " ++ r.message ++
    String.join (r.fields.map fun (name, value) => " " ++ name ++ "=" ++ value.render)

end WifiDirect
