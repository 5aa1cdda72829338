import WifiDirect.Delivery
import WifiDirect.Json.Parser
import WifiDirect.Settings.Basic
import WifiDirect.Text.Blank

/-!
# Replay

Recorded notifications are replayed line by line. Blank lines and comments do not count; of the
others each comes to one thing, whatever the lines around it are. The first line that is no UTF-8
ends the run.
-/

namespace WifiDirect.Replay

/-- The line feed. -/
def lineFeed : UInt8 := 0x0A

/-- The lines of a run of bytes, the first of which has begun with `begun`, last byte first. -/
def linesFrom (begun : Bytes) : Bytes → List Bytes
  | [] => if begun.isEmpty then [] else [begun.reverse]
  | b :: bs =>
    if b = lineFeed then (b :: begun).reverse :: linesFrom [] bs
    else linesFrom (b :: begun) bs

/-- The lines of a run of bytes, each with the line feed that ends it. Only the last may lack it. -/
def lines (bs : Bytes) : List Bytes :=
  linesFrom [] bs

theorem flatten_linesFrom (begun bs : Bytes) :
    (linesFrom begun bs).flatten = begun.reverse ++ bs := by
  fun_induction linesFrom begun bs <;> simp_all

/-- **No byte is lost.** -/
theorem flatten_lines (bs : Bytes) : (lines bs).flatten = bs :=
  flatten_linesFrom [] bs

/-- What a line comes to. -/
inductive Report
  /-- It is blank or a comment. -/
  | skipped
  /-- It writes no notification. -/
  | unparsable
  /-- It writes a notification, which is delivered. -/
  | delivered (delivery : Delivery)
  deriving DecidableEq, Repr

/-- The notification that a text writes. -/
def notification? (cs : List Char) : Option Notification := do
  Notification.layout.ofJson? (← Json.parse? cs)

/-- What the text of a line comes to. -/
def reportText (interface : String) (cs : List Char) : Report :=
  let text := Text.trim cs
  if text = [] ∨ text.head? = some '#' then .skipped
  else
    match notification? text with
    | some n => .delivered (.ofNotification interface n)
    | none => .unparsable

/-- **What a line comes to.** -/
def report (interface : String) (line : Bytes) : Except Utf8.Error Report :=
  (Utf8.decode line).map (reportText interface)

/-- A run: what its lines come to, and where it breaks off. -/
structure Run where
  reports : List Report
  error? : Option Utf8.Error
  deriving DecidableEq, Repr

/-- What the lines come to, up to the first that is no UTF-8. -/
def ofLines (interface : String) : List Bytes → Run
  | [] => ⟨[], none⟩
  | line :: rest =>
    match report interface line with
    | .error e => ⟨[], some e⟩
    | .ok r =>
      let run := ofLines interface rest
      { run with reports := r :: run.reports }

/-- **Replays an input.** -/
def run (interface : String) (input : Bytes) : Run :=
  ofLines interface (lines input)

/-! ### Accounts -/

/-- Whether a line counts. -/
def Report.isCounted : Report → Bool
  | .skipped => false
  | _ => true

/-- Whether a line writes no notification. -/
def Report.isUnparsable : Report → Bool
  | .unparsable => true
  | _ => false

/-- Whether a line writes a notification whose status is in no table. -/
def Report.isUnmapped : Report → Bool
  | .delivered d => d.fate.error?.isSome
  | _ => false

/-- How many lines there are of each sort. -/
structure Tally where
  lines : Nat
  unparsable : Nat
  unmapped : Nat
  deriving DecidableEq, Repr

/-- The tally of a run. -/
def tally (reports : List Report) : Tally where
  lines := reports.countP Report.isCounted
  unparsable := reports.countP Report.isUnparsable
  unmapped := reports.countP Report.isUnmapped

/-- A tally as text. -/
def Tally.text (t : Tally) : String :=
  "lines=" ++ toString t.lines ++ " unparsable=" ++ toString t.unparsable ++ " unmapped=" ++
    toString t.unmapped

/-- The lines that a report puts out. Only the JSON output has any. -/
def Report.outputLines (interface : String) (output : Output) : Report → List String
  | .delivered d =>
    match output with
    | .json => d.lines interface
    | .log => []
  | _ => []

/-- A record and the target that filters know it by. -/
structure TargetedRecord where
  target : String
  record : LogRecord
  deriving DecidableEq, Repr

/-- The target of the records of decoding. -/
def decodingTarget : String := "p2pmon_core"

/-- The target of the records of the program. -/
def programTarget : String := "p2pmon_linux"

/-- The records of a report; `number` is that of the line among those that count. -/
def Report.records (interface : String) (output : Output) (number : Nat) :
    Report → List TargetedRecord
  | .skipped => []
  | .unparsable => [⟨programTarget, .warn, "unparsable callback", [("line", .int number)]⟩]
  | .delivered d =>
    d.decodeRecords.map (⟨decodingTarget, ·⟩) ++
      match output with
      | .json => []
      | .log => d.fate.call?.toList.map fun call => ⟨programTarget, call.record interface⟩

/-- The records of the reports, of which `counted` lines that count came before. -/
def recordsFrom (interface : String) (output : Output) (counted : Nat) :
    List Report → List TargetedRecord
  | [] => []
  | r :: rest =>
    let counted := if r.isCounted then counted + 1 else counted
    r.records interface output counted ++ recordsFrom interface output counted rest

/-- The text that the reports put out, each line with its end. -/
def outputText (interface : String) (output : Output) (reports : List Report) : String :=
  String.join ((reports.flatMap (Report.outputLines interface output)).map (· ++ "\n"))

end WifiDirect.Replay
