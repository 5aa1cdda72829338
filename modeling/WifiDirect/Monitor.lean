import WifiDirect.CommandLine
import WifiDirect.Log.Filter
import WifiDirect.Replay
import WifiDirect.Settings.Layers

/-!
# The monitor

A whole run of the program: arguments, settings and input lead to what is printed, an exit code and
an account of the lines.
-/

namespace WifiDirect.Monitor

/-- What surrounds a run. -/
structure Surroundings where
  environment : Settings.Environment
  file : Settings.File
  input : Bytes
  deriving DecidableEq, Repr

/-- Why a run fails. -/
inductive Failure
  | argument (error : ArgumentError)
  | input (error : Utf8.Error)
  deriving DecidableEq, Repr

/-- The failure in words. -/
def Failure.message : Failure → String
  | .argument error => error.message
  | .input error => error.message

/-- What a run comes to. -/
structure Outcome where
  output : String
  /-- The records that the filter keeps. -/
  records : List LogRecord
  failure? : Option Failure
  /-- The account of the lines, where the end of the input is reached. -/
  tally? : Option Replay.Tally
  deriving DecidableEq, Repr

/-- The exit code of a run. -/
def Outcome.exitCode (o : Outcome) : Nat :=
  if o.failure?.isSome then 1 else 0

/-- The record of a settings file that is left out of account. -/
def fileRecord (e : Settings.FileError) : LogRecord :=
  ⟨.warn, "config file ignored, using defaults", [("error", .text e.name)]⟩

/-- The record of the settings in force. -/
def openingRecord (settings : Settings) : LogRecord :=
  ⟨.info, "p2pmon " ++ version ++ " starting",
    [("iface", .text settings.interface), ("output", .text settings.output.name)]⟩

/-- The record of the end of the input. -/
def closingRecord (tally : Replay.Tally) : LogRecord :=
  ⟨.info, "input closed",
    [("lines", .int tally.lines), ("unparsable", .int tally.unparsable),
      ("unmapped", .int tally.unmapped)]⟩

/-- The account of the lines as far as it is on record. -/
def Outcome.recordedTally? (o : Outcome) : Option Replay.Tally :=
  o.tally?.filter fun tally => closingRecord tally ∈ o.records

/-- Whether it is on record that a settings file is left out of account. -/
def Outcome.recordsIgnoredFile (o : Outcome) : Bool :=
  fileRecord .reading ∈ o.records || fileRecord .parsing ∈ o.records

/-- All records of a run, of which the filter keeps some. -/
def allRecords (settings : Settings) (fileError? : Option Settings.FileError)
    (reports : List Replay.Report) (tally? : Option Replay.Tally) : List Replay.TargetedRecord :=
  fileError?.toList.map (fun e => ⟨Replay.programTarget, fileRecord e⟩) ++
    ⟨Replay.programTarget, openingRecord settings⟩ ::
    Replay.recordsFrom settings.interface settings.output 0 reports ++
    tally?.toList.map (fun tally => ⟨Replay.programTarget, closingRecord tally⟩)

/-- A run that replays its input with these settings. -/
def replay (loaded : Settings.Loaded) (interface? : Option String) (input : Bytes) : Outcome :=
  let settings := loaded.settings.withInterface interface?
  let run := Replay.run settings.interface input
  let tally? := if run.error?.isSome then none else some (Replay.tally run.reports)
  { output := Replay.outputText settings.interface settings.output run.reports
    records :=
      ((allRecords settings loaded.fileError? run.reports tally?).filter fun r =>
        Log.keeps settings.logFilter r.target r.record).map (·.record)
    failure? := run.error?.map .input
    tally? }

/-- A run that ends before the settings are loaded. -/
def endEarly (output : String) (failure? : Option Failure) : Outcome where
  output := output
  records := []
  failure? := failure?
  tally? := none

/-- **A run of the program.** -/
def run (arguments : List String) (s : Surroundings) : Outcome :=
  match Command.parse arguments with
  | .error e => endEarly "" (some (.argument e))
  | .ok .version => endEarly (versionText ++ "\n") none
  | .ok (.replay interface?) => replay (Settings.load s.environment s.file) interface? s.input

end WifiDirect.Monitor
