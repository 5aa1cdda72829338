import WifiDirect.Monitor

/-!
# Program

Gathers what surrounds a run, runs it and prints what it comes to: event lines on standard output,
records and errors on standard error.
-/

namespace WifiDirect

/-- All bytes of a stream. -/
partial def readAll (stream : IO.FS.Stream) (done : ByteArray) : IO ByteArray := do
  let chunk ← stream.read 65536
  if chunk.isEmpty then return done else readAll stream (done ++ chunk)

/-- What stands at a path. -/
def readSettingsFile (path : String) : IO Settings.File := do
  try
    let bytes ← IO.FS.readBinFile path
    return .content bytes.toList
  catch
    | .noFileOrDirectory .. => return .absent
    | _ => return .directory

/-- What stands at the first of the paths at which anything stands. -/
def findSettingsFile : List String → IO Settings.File
  | [] => return .absent
  | path :: rest => do
    match ← readSettingsFile path with
    | .absent => findSettingsFile rest
    | file => return file

/-- What surrounds a run that looks at nothing. -/
def noSurroundings : Monitor.Surroundings where
  environment := { interface? := none, output? := none, logFilter? := none }
  file := .absent
  input := []

/-- What surrounds a run that replays standard input. -/
def surroundings : IO Monitor.Surroundings := do
  let home? ← IO.getEnv "HOME"
  let paths := home?.toList.map (· ++ "/.config/p2pmon/config.toml") ++ ["/etc/p2pmon/config.toml"]
  let file ← findSettingsFile paths
  let environment : Settings.Environment :=
    { interface? := ← IO.getEnv "P2PMON_INTERFACE"
      output? := ← IO.getEnv "P2PMON_OUTPUT"
      logFilter? := ← IO.getEnv "P2PMON_LOG" }
  let input ← readAll (← IO.getStdin) ByteArray.empty
  return { environment, file, input := input.toList }

end WifiDirect

open WifiDirect in
/-- Runs the program. -/
def main (arguments : List String) : IO UInt32 := do
  let around ← match Command.parse arguments with
    | .ok (.replay _) => surroundings
    | _ => pure noSurroundings
  let outcome := Monitor.run arguments around
  let stderr ← IO.getStderr
  for record in outcome.records do
    stderr.putStrLn record.render
  let stdout ← IO.getStdout
  stdout.putStr outcome.output
  stdout.flush
  for failure in outcome.failure?.toList do
    stderr.putStrLn ("Error: " ++ failure.message)
  return UInt32.ofNat outcome.exitCode
