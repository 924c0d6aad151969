import DeviceConsole.Settings.Basic
import DeviceConsole.Toml.Reader

/-!
# `Settings.Reader` — settings from the text of a settings file

A section is a table; it may also be an array of its fields in their order, or a time, which has none of them. What
is not there has its standard value, and what is not known is passed over. A value of another kind than its field's is refused.

## Contents

* `fields?` — the fields of a section;
* `displaySettings?`, …, `deviceEntry?` — the sections;
* `Settings.ofToml?` — the settings of a text.
-/

namespace DeviceConsole.Settings

open Format (OutputFormat TableStyle)
open Toml (Value)

/-! ## Fields -/

/-- The fields of a section, by name. -/
def fields? (names : List String) : Value → Option (String → Option Value)
  | .table members => some fun name => Toml.lookup? name members
  | .array items => some fun name => items[names.idxOf name]?
  | .time => some fun _ => none
  | _ => none

/-- A field that has a standard value. -/
def orStandard {α : Type} (read? : Value → Option α) (standard : α) : Option Value → Option α
  | none => some standard
  | some value => read? value

/-- A text. -/
def text? : Value → Option String
  | .text value => some value
  | _ => none

/-- A truth value. -/
def truth? : Value → Option Bool
  | .truth value => some value
  | _ => none

/-- A number of 64 bits. -/
def size? : Value → Option Nat
  | .integer value => if 0 ≤ value ∧ value ≤ 0xFFFFFFFFFFFFFFFF then some value.toNat else none
  | _ => none

/-- A list. -/
def list? {α : Type} (read? : Value → Option α) : Value → Option (List α)
  | .array items => items.mapM read?
  | _ => none

/-- One of some names: a text, or the only name of a table with nothing behind it. -/
def choice? {α : Type} (ofName? : String → Option α) : Value → Option α
  | .text name => ofName? name
  | .table [(name, .table [])] => ofName? name
  | .table [(name, .array [])] => ofName? name
  | _ => none

/-! ## Sections -/

/-- The section on display. -/
def displaySettings? (value : Value) : Option DisplaySettings := do
  let field ← fields? ["format", "color_output", "table_style", "show_timing"] value
  return {
    format := ← orStandard (choice? OutputFormat.ofName?) .table (field "format")
    colours := ← orStandard truth? true (field "color_output")
    style := ← orStandard (choice? TableStyle.ofName?) .modern (field "table_style")
    timing := ← orStandard truth? true (field "show_timing") }

/-- The section on history. -/
def historySettings? (places : Places) (value : Value) : Option HistorySettings := do
  let field ← fields? ["max_size", "file_path", "persist"] value
  return {
    size := ← orStandard size? 1000 (field "max_size")
    path := ← orStandard text? places.historyPath (field "file_path")
    persist := ← orStandard truth? true (field "persist") }

/-- The section on logging. -/
def loggingSettings? (value : Value) : Option LoggingSettings := do
  let field ← fields? ["level", "timestamps"] value
  return {
    level := ← orStandard (choice? LogLevel.ofName?) .warn (field "level")
    timestamps := ← orStandard truth? false (field "timestamps") }

/-- The section on the console. -/
def consoleSettings? (value : Value) : Option ConsoleSettings := do
  let field ← fields? ["prompt", "debug"] value
  return {
    prompt := ← orStandard text? "echonet> " (field "prompt")
    debug := ← orStandard truth? false (field "debug") }

/-- A device. -/
def deviceEntry? (value : Value) : Option DeviceEntry := do
  let field ← fields? ["ip", "eoj", "properties"] value
  return {
    ip := ← (field "ip").bind text?
    eoj := ← (field "eoj").bind text?
    properties := ← orStandard (list? text?) [] (field "properties") }

/-! ## All settings -/

/-- The settings of a document. -/
def ofValue? (places : Places) (document : Value) : Option Settings := do
  let standard := Settings.standard places
  return {
    display := ← orStandard displaySettings? standard.display (document.member? "display")
    history := ← orStandard (historySettings? places) standard.history (document.member? "history")
    logging := ← orStandard loggingSettings? standard.logging (document.member? "logging")
    console := ← orStandard consoleSettings? standard.console (document.member? "console")
    devices := ← orStandard (list? deviceEntry?) standard.devices (document.member? "devices") }

/-- The settings of a text. -/
def ofToml? (places : Places) (text : String) : Option Settings :=
  (Toml.read? text).bind (ofValue? places)

end DeviceConsole.Settings
