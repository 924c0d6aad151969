import DeviceConsole.Format.Grid
import DeviceConsole.Outcome

/-!
# `Format.Tables` — answers as tables

Devices are laid out one record per device with one column per property code that any of them shows, so devices
of different classes share a table.

## Contents

* `shownEpcs` — the property columns, with their names;
* `deviceGrid`, `aliasGrid`, `groupGrid` — the grids;
* `table` — an answer as text.
-/

namespace DeviceConsole.Format

open Device (Endpoint Epc)

/-! ## Grids -/

/-- Property codes in order of first appearance, with the name of the first. -/
def shownEpcs (rows : List DeviceRow) : List (Epc × Option String) :=
  (rows.flatMap DeviceRow.properties).foldl (fun shown property =>
    if shown.any fun entry => entry.1 = property.epc then shown
    else shown ++ [(property.epc, property.name)]) []

/-- The heading of a property column. -/
def epcHeading : Epc × Option String → String
  | (epc, some name) => epc.toText ++ " " ++ name
  | (epc, none) => epc.toText

/-- What a row shows for a code: the value of the first property with it. -/
def valueOf (row : DeviceRow) (epc : Epc) : String :=
  ((row.properties.find? fun property => property.epc = epc).map PropertyRow.value).getD ""

/-- The cells of a device. -/
def deviceRecord (epcs : List (Epc × Option String)) (row : DeviceRow) : List String :=
  [row.device.ip.toText, row.device.eoj.toText, row.aliasName.getD ""] ++
    epcs.map fun entry => valueOf row entry.1

/-- The grid of some devices. -/
def deviceGrid (rows : List DeviceRow) : Grid :=
  let epcs := shownEpcs rows
  ⟨["IP", "EOJ", "Alias"] ++ epcs.map epcHeading, rows.map (deviceRecord epcs)⟩

/-- The grid of aliases. -/
def aliasGrid (aliases : List (String × Endpoint)) : Grid :=
  ⟨["Alias", "IP", "EOJ"],
    aliases.map fun (name, device) => [name, device.ip.toText, device.eoj.toText]⟩

/-- The grid of groups, a member a line. -/
def groupGrid (groups : List (String × List Endpoint)) : Grid :=
  ⟨["Group", "Devices"],
    groups.map fun (name, members) => [name, "\n".intercalate (members.map Endpoint.toText)]⟩

/-! ## Answers -/

/-- How tables are written. -/
structure TableLayout where
  style : TableStyle := .modern
  limit : Nat := 32
  paint : Paint := ⟨false⟩
  deriving DecidableEq, Repr

/-- The text of a grid, or of its absence. -/
def TableLayout.render (layout : TableLayout) (absence : String) (grid : Grid) : String :=
  if grid.records.isEmpty then absence else grid.render layout.style layout.limit layout.paint

/-- The text of a table of devices. -/
def TableLayout.devices (layout : TableLayout) (rows : List DeviceRow) : String :=
  layout.render "(no devices)" (deviceGrid rows)

/-- An answer as text; groups of devices are tables of their own. -/
def TableLayout.write (layout : TableLayout) : Answer → String
  | .devices rows => layout.devices rows
  | .grouped epc groups =>
    if groups.isEmpty then "(no devices)"
    else "\n\n".intercalate (groups.map fun (key, rows) =>
      epc.toText ++ " = " ++ key ++ "\n" ++ layout.devices rows)
  | .aliases aliases => layout.render "(no aliases)" (aliasGrid aliases)
  | .groups groups => layout.render "(no groups)" (groupGrid groups)
  | .message text => text
  | .nothing => ""

end DeviceConsole.Format
