import DeviceConsole.Format.Formatter

/-!
# `Settings.Basic` — what a user can choose

## Contents

* `DisplaySettings`, `HistorySettings`, `LoggingSettings`, `ConsoleSettings`, `DeviceEntry` — the sections;
* `Settings` — all of them;
* `Places` — where files are by default;
* `Settings.standard` — what holds without a settings file.
-/

namespace DeviceConsole

open Format (OutputFormat TableStyle)

/-! ## Sections -/

/-- How answers are shown. -/
structure DisplaySettings where
  format : OutputFormat := .table
  colours : Bool := true
  style : TableStyle := .modern
  timing : Bool := true
  deriving DecidableEq, Repr

/-- How many lines are remembered, and where. -/
structure HistorySettings where
  size : Nat := 1000
  path : String
  persist : Bool := true
  deriving DecidableEq, Repr

/-- Which events are reported, the gravest first. -/
inductive LogLevel where
  | error
  | warn
  | info
  | debug
  | trace
  deriving DecidableEq, Repr

namespace LogLevel

/-- The written name. -/
def name : LogLevel → String
  | error => "error"
  | warn => "warn"
  | info => "info"
  | debug => "debug"
  | trace => "trace"

/-- The name in front of a reported event. -/
def heading : LogLevel → String
  | error => "ERROR"
  | warn => "WARN"
  | info => "INFO"
  | debug => "DEBUG"
  | trace => "TRACE"

/-- All levels, the gravest first. -/
def all : List LogLevel := [error, warn, info, debug, trace]

/-- The level with a written name. -/
def ofName? (name : String) : Option LogLevel := all.find? fun level => level.name = name

/-- The place of a level among all of them. -/
def rank (level : LogLevel) : Nat := all.idxOf level

/-- Whether events of a level are reported. -/
def reports (chosen event : LogLevel) : Bool := decide (event.rank ≤ chosen.rank)

end LogLevel

/-- What is reported. -/
structure LoggingSettings where
  level : LogLevel := .warn
  timestamps : Bool := false
  deriving DecidableEq, Repr

/-- How lines are asked for. -/
structure ConsoleSettings where
  prompt : String := "echonet> "
  debug : Bool := false
  deriving DecidableEq, Repr

/-- A device on the network, as it is written. -/
structure DeviceEntry where
  ip : String
  eoj : String
  properties : List String := []
  deriving DecidableEq, Repr

/-! ## All settings -/

/-- What a user can choose. -/
structure Settings where
  display : DisplaySettings
  history : HistorySettings
  logging : LoggingSettings
  console : ConsoleSettings
  devices : List DeviceEntry
  deriving DecidableEq, Repr

/-- Where files are by default: in the home directory and in the directory for settings. -/
structure Places where
  home : String
  settings : String
  deriving DecidableEq, Repr

namespace Places

/-- The places of a user with a home directory and no other choice. -/
def ofHome (home : String) : Places := ⟨home, home ++ "/.config"⟩

/-- The places of a user who may have a home directory and may have chosen a directory for settings. A choice
counts if it names a place from the root of all folders; without a home directory the folder at hand serves. -/
def ofChoices (home settings : Option String) : Places :=
  let standard := (home.map ofHome).getD ⟨".", "."⟩
  match settings.filter fun path => path.toList.head? = some '/' with
  | some path => { standard with settings := path }
  | none => standard

/-- The history of the user. -/
def historyPath (places : Places) : String := places.home ++ "/.echonet_console_history"

/-- The settings file of the user. -/
def settingsPath (places : Places) : String := places.settings ++ "/echonet-console/config.toml"

end Places

/-- What holds without a settings file. -/
def Settings.standard (places : Places) : Settings :=
  ⟨{}, { path := places.historyPath }, {}, {}, []⟩

/-- The way to show answers that settings choose. -/
def DisplaySettings.formatter (display : DisplaySettings) (colours : Bool) : Format.Formatter :=
  ⟨display.format, display.style, colours, display.timing⟩

end DeviceConsole
