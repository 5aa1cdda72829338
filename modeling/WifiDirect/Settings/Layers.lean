import WifiDirect.Settings.File

/-!
# Layers of settings

Each setting is taken from the first place that chooses it: the command line, the environment, the
settings file, the defaults.
-/

namespace WifiDirect.Settings

/-- The variables of the environment that choose settings, as far as they are set. -/
structure Environment where
  interface? : Option String
  output? : Option String
  logFilter? : Option String
  deriving DecidableEq, Repr

/-- What the environment chooses. Empty values and words that name no output choose nothing. -/
def Environment.choices (env : Environment) : Choices where
  interface? := env.interface?.filter (· ≠ "")
  output? := env.output?.bind Output.parse?
  logFilter? := env.logFilter?.filter (· ≠ "")

/-- The settings that were loaded, and why the file was left out of account, if it was. -/
structure Loaded where
  settings : Settings
  fileError? : Option FileError
  deriving DecidableEq, Repr

/-- What a file adds to the defaults. A rejected file adds nothing. -/
def File.load (file : File) : Loaded :=
  match file.choices with
  | .ok choices => ⟨choices.orElse .default, none⟩
  | .error e => ⟨.default, some e⟩

/-- **The settings in force without a command line.** -/
def load (env : Environment) (file : File) : Loaded :=
  let loaded := file.load
  { loaded with settings := env.choices.orElse loaded.settings }

/-- The settings with an interface that the command line chooses, if it does. -/
def withInterface (settings : Settings) (interface? : Option String) : Settings :=
  { settings with interface := interface?.getD settings.interface }

end WifiDirect.Settings
