import DeviceConsole.Error
import DeviceConsole.Settings.Basic
import DeviceConsole.Toml.Quoted

/-!
# `Settings.Writer` — settings as the text of a settings file

Every section has a comment above it. Numbers of a settings file have 63 bits, so a larger history cannot be
written.

## Contents

* `Section`, `Section.write` — a header with its comment and its lines;
* `Settings.sections` — the sections of settings;
* `Settings.toToml` — the text.
-/

namespace DeviceConsole.Settings

/-! ## Sections -/

/-- A header with its comment and its lines. -/
structure Section where
  comment : String
  header : String
  lines : List (String × String)

/-- The text of a section. -/
def Section.write (part : Section) : String :=
  part.comment ++ part.header ++ "\n" ++
    String.join (part.lines.map fun (name, value) => name ++ " = " ++ value ++ "\n")

/-- A truth value. -/
def writeTruth (value : Bool) : String := if value then "true" else "false"

/-- A list of texts. -/
def writeTexts (texts : List String) : String := "[" ++ ", ".intercalate (texts.map Toml.write) ++ "]"

/-- A device. -/
def deviceSection (comment : String) (entry : DeviceEntry) : Section :=
  ⟨comment, "[[devices]]",
    [("ip", Toml.write entry.ip), ("eoj", Toml.write entry.eoj),
      ("properties", writeTexts entry.properties)]⟩

/-- The devices, with a comment above the first. -/
def deviceSections : List DeviceEntry → List Section
  | [] => []
  | first :: rest =>
    deviceSection "\n# Simulated devices; properties are \"EPC:EDT\" in hex\n" first ::
      rest.map (deviceSection "\n")

/-- The sections of settings. -/
def sections (settings : Settings) : List Section :=
  [⟨"# Output format: table, json, json-pretty or compact\n", "[display]",
      [("format", Toml.write settings.display.format.name),
        ("color_output", writeTruth settings.display.colours),
        ("table_style", Toml.write settings.display.style.name),
        ("show_timing", writeTruth settings.display.timing)]⟩,
    ⟨"\n# Line history\n", "[history]",
      [("max_size", String.ofList (Text.Decimal.write settings.history.size)),
        ("file_path", Toml.write settings.history.path),
        ("persist", writeTruth settings.history.persist)]⟩,
    ⟨"\n# Log level: error, warn, info, debug or trace\n", "[logging]",
      [("level", Toml.write settings.logging.level.name),
        ("timestamps", writeTruth settings.logging.timestamps)]⟩,
    ⟨"\n# Interactive console\n", "[console]",
      [("prompt", Toml.write settings.console.prompt), ("debug", writeTruth settings.console.debug)]⟩] ++
    deviceSections settings.devices

/-! ## Text -/

/-- The largest number of a settings file. -/
def largestNumber : Nat := 0x7FFFFFFFFFFFFFFF

/-- The text of settings. -/
def toToml (settings : Settings) : Except SettingsError String :=
  if largestNumber < settings.history.size then
    .error (.invalidFormat "number out of range")
  else
    .ok ((if settings.devices.isEmpty then "devices = []\n" else "") ++
      String.join (settings.sections.map Section.write))

end DeviceConsole.Settings
