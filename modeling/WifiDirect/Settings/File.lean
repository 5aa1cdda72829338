import WifiDirect.Settings.Basic
import WifiDirect.Settings.Assignment
import WifiDirect.Text.Utf8

/-!
# Settings files

What a settings file chooses. A file that cannot be read, is not of the right form, or assigns to an
unknown key, twice to one key, a value of the wrong type or an unknown output chooses nothing at all.
-/

namespace WifiDirect.Settings

/-- Why a file is rejected. -/
inductive FileError
  /-- It is no readable text. -/
  | reading
  /-- It is no settings file. -/
  | parsing
  deriving DecidableEq, Repr

/-- The error as answers name it. -/
def FileError.name : FileError → String
  | .reading => "reading"
  | .parsing => "parsing"

/-- What a file chooses. -/
structure Choices where
  interface? : Option String
  output? : Option Output
  logFilter? : Option String
  deriving DecidableEq, Repr

/-- The text of a value that is one. -/
def Value.text? : Value → Option String
  | .text content => some (String.ofList content)
  | .blank => none
  | .member _ => none

/-- The output that a value names, by its word or as the member of a table. -/
def Value.output? : Value → Option Output
  | .text content => Output.parse? (String.ofList content)
  | .blank => none
  | .member key => Output.parse? (String.ofList key)

namespace Choices

/-- No choice. -/
def unset : Choices := ⟨none, none, none⟩

/-- A value for a setting that has none yet. -/
def setOnce {α : Type} (old? : Option α) (new : α) : Option (Option α) :=
  if old?.isNone then some (some new) else none

/-- The choices with one more assignment. -/
def assign (choices : Choices) (a : Assignment) : Option Choices := do
  if a.key = "interface".toList then
    return { choices with interface? := ← setOnce choices.interface? (← a.value.text?) }
  else if a.key = "output".toList then
    return { choices with output? := ← setOnce choices.output? (← a.value.output?) }
  else if a.key = "log_filter".toList then
    return { choices with logFilter? := ← setOnce choices.logFilter? (← a.value.text?) }
  else none

/-- What a text chooses, unless it is no settings file. -/
def parse? (cs : List Char) : Option Choices := do
  (← assignments? cs).foldlM assign unset

/-- The settings, with `base` where there is no choice. -/
def orElse (choices : Choices) (base : Settings) : Settings where
  interface := choices.interface?.getD base.interface
  output := choices.output?.getD base.output
  logFilter := choices.logFilter?.getD base.logFilter

end Choices

/-- What stands where the settings file is looked for. -/
inductive File
  | absent
  | directory
  | content (bytes : Bytes)
  deriving DecidableEq, Repr

/-- **What a file chooses.** -/
def File.choices : File → Except FileError Choices
  | .absent => .ok .unset
  | .directory => .error .reading
  | .content bytes =>
    match Utf8.decode bytes with
    | .error _ => .error .reading
    | .ok cs =>
      match Choices.parse? cs with
      | some choices => .ok choices
      | none => .error .parsing

end WifiDirect.Settings
