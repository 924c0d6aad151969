import DeviceConsole.CommandLine.Arguments
import DeviceConsole.CommandLine.Scripts
import DeviceConsole.Settings.Files
import DeviceConsole.Settings.Network

/-!
# `CommandLine.Launch` — arguments and settings together

Arguments count more than the settings file, and the settings file more than the standard settings. Settings
with a wrong value do not count at all.

## Contents

* `Launch`, `Launch.prepare` — the arguments with the settings that hold, and the warnings on the way;
* `Launch.banner` — the greeting of the console;
* `Launch.perform` — the task that the arguments name.
-/

namespace DeviceConsole.CommandLine

open Format (OutputFormat)

/-- The version of the console. -/
def version : String := "0.9.0"

/-- What is printed for a request for the version. -/
def versionLine : String := programName ++ " " ++ version ++ "\n"

/-- The arguments, the settings that hold, the file they come from and the warnings on the way. -/
structure Launch where
  arguments : Arguments
  settings : Settings
  source : Option String
  warnings : List String
  deriving DecidableEq, Repr

namespace Launch

/-! ## Settings that hold -/

/-- The name of a format in a warning. -/
def formatTitle : OutputFormat → String
  | .table => "Table"
  | .json => "Json"
  | .jsonPretty => "JsonPretty"
  | .compact => "Compact"

/-- The format of a name in either case, or the present one with a warning. -/
def chooseFormat (present : OutputFormat) (name : String) : OutputFormat × List String :=
  match Text.lower name with
  | "json" => (.json, [])
  | "json-pretty" | "jsonpretty" => (.jsonPretty, [])
  | "table" => (.table, [])
  | "compact" => (.compact, [])
  | _ => (present, ["Warning: Unknown format '" ++ name ++ "', using " ++ formatTitle present])

/-- The level that arguments choose: the most talkative one that was asked for. -/
def chooseLevel (arguments : Arguments) (present : LogLevel) : LogLevel :=
  if arguments.veryVerbose then .trace
  else if arguments.verbose then .debug
  else if arguments.quiet then .error
  else present

/-- Lets arguments change settings. -/
def applyArguments (arguments : Arguments) (settings : Settings) : Settings × List String :=
  let display := settings.display
  let (format, warnings) := match arguments.format with
    | some name => chooseFormat display.format name
    | none => (display.format, [])
  ({ settings with
      display := { display with format, colours := display.colours && !arguments.noColour }
      logging := { settings.logging with level := chooseLevel arguments settings.logging.level }
      console := { settings.console with debug := settings.console.debug || arguments.debug } },
    warnings)

/-- Settings without a wrong value, or the standard ones with warnings. -/
def orStandard (places : Places) (settings : Settings) : Settings × List String :=
  match settings.check with
  | .ok _ => (settings, [])
  | .error error =>
    (.standard places,
      ["Warning: Configuration validation failed: " ++ (ConsoleError.settings error).message,
        "Using default configuration instead."])

/-- Finds the settings that hold. -/
def prepare (places : Places) (tree : FileTree) (arguments : Arguments) : Except ConsoleError Launch := do
  let (found, source) ← Settings.find places tree arguments.configFile
  let (sound, warnings) := orStandard places found
  let (settings, more) := applyArguments arguments sound
  return ⟨arguments, settings, source, warnings ++ more⟩

/-! ## Tasks -/

/-- The greeting of the console. -/
def banner (launch : Launch) : String :=
  if launch.arguments.quiet then ""
  else
    programName ++ " " ++ version ++ "\n" ++ Format.writeCount launch.settings.devices.length ++
      " simulated device(s). Type 'help' for commands, 'quit' to exit.\n"

/-- The settings file that the arguments name, that was read, or that would be read. -/
def settingsPath (places : Places) (launch : Launch) : String :=
  ((launch.arguments.configFile <|> launch.source).getD places.settingsPath)

/-- What a task prints, and the error that ends it. -/
structure TaskOutcome where
  printed : String
  result : Except ConsoleError Unit

/-- Judges the settings file. -/
def validation (places : Places) (tree : FileTree) (path : String) : String :=
  "Validating configuration file: " ++ path ++ "\n" ++
    (if tree.entry path = .missing then "Configuration file does not exist, defaults apply"
    else match Settings.load places tree path with
      | .error error => "Failed to load configuration: " ++ error.message
      | .ok settings =>
        match settings.check with
        | .ok _ => "Configuration is valid"
        | .error error =>
          "Configuration validation failed: " ++ (ConsoleError.settings error).message) ++ "\n"

/-- Shows the settings that hold. -/
def showing (path : String) (settings : Settings) : TaskOutcome :=
  let heading := "# Configuration file: " ++ path ++ "\n\n"
  match settings.toToml with
  | .ok text => ⟨heading ++ text ++ "\n", .ok ()⟩
  | .error error => ⟨heading, .error (.settings error)⟩

/-- Carries out the task that the arguments name. Settings are shown unless they are only to be judged. -/
def perform (places : Places) (tree : FileTree) (launch : Launch) : Option TaskOutcome :=
  launch.arguments.subcommand.map fun
    | .version => ⟨programName ++ " version " ++ version ++ "\n", .ok ()⟩
    | .completion shell =>
      match completionScript shell with
      | .ok script => ⟨script, .ok ()⟩
      | .error error => ⟨"", .error error⟩
    | .config shown validated =>
      let path := launch.settingsPath places
      let judged := if validated then validation places tree path else ""
      if shown || !validated then
        let shown := showing path launch.settings
        { shown with printed := judged ++ shown.printed }
      else ⟨judged, .ok ()⟩

end Launch

end DeviceConsole.CommandLine
