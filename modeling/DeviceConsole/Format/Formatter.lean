import DeviceConsole.Error
import DeviceConsole.Format.Documents
import DeviceConsole.Format.Tables

/-!
# `Format.Formatter` — what the console prints

## Contents

* `compact` — an answer with a line per entry;
* `Statistics`, `Statistics.write` — the number of devices and the time of a command;
* `Formatter` — the chosen way to show answers, and `Formatter.write`, `Formatter.writeError`.
-/

namespace DeviceConsole.Format

/-- A number. -/
def writeCount (count : Nat) : String := String.ofList (Text.Decimal.write count)

/-! ## Compact lines -/

/-- A name and how many devices stand behind it. -/
def countedLine (name : String) (count : Nat) : String := name ++ ": " ++ writeCount count ++ " device(s)"

/-- A device and its properties. -/
def compactRow (row : DeviceRow) : String :=
  row.device.toText ++ " " ++
    " ".intercalate (row.properties.map fun property => property.epc.toText ++ "=" ++ property.value)

/-- An answer with a line per entry. -/
def compact : Answer → String
  | .devices rows => "\n".intercalate (rows.map compactRow)
  | .grouped _ groups => "\n".intercalate (groups.map fun (key, rows) => countedLine key rows.length)
  | .aliases aliases =>
    "\n".intercalate (aliases.map fun (name, device) => name ++ " = " ++ device.toText)
  | .groups groups =>
    "\n".intercalate (groups.map fun (name, members) => countedLine name members.length)
  | .message text => text
  | .nothing => ""

/-! ## Statistics -/

/-- Whether an answer lists devices. -/
def listsDevices : Answer → Bool
  | .devices _ | .grouped .. => true
  | _ => false

/-- Which statistics are shown. -/
structure Statistics where
  time : Bool
  count : Bool
  deriving DecidableEq, Repr

/-- The statistics of a command: how many devices a listing has, and how long it took if that can be told. -/
def Statistics.write (shown : Statistics) (outcome : Outcome) : String :=
  let count :=
    if shown.count && listsDevices outcome.answer then [writeCount outcome.devices ++ " device(s)"] else []
  let time :=
    if shown.time && decide (0 < outcome.milliseconds) then [writeCount outcome.milliseconds ++ "ms"] else []
  ", ".intercalate (count ++ time)

/-! ## Formatter -/

/-- The chosen way to show answers. -/
structure Formatter where
  format : OutputFormat := .table
  style : TableStyle := .modern
  colours : Bool := false
  statistics : Bool := true
  deriving DecidableEq, Repr

namespace Formatter

/-- The colours of the formatter. -/
def paint (formatter : Formatter) : Paint := ⟨formatter.colours⟩

/-- The text of an answer. -/
def writeAnswer (formatter : Formatter) (answer : Answer) : String :=
  match formatter.format with
  | .table => TableLayout.write { style := formatter.style, paint := formatter.paint } answer
  | .json => JsonLayout.write { pretty := false } answer
  | .jsonPretty => JsonLayout.write { colours := formatter.colours } answer
  | .compact => compact answer

/-- The text of an outcome. Statistics stand on a line of their own and never beside JSON. -/
def write (formatter : Formatter) (outcome : Outcome) : String :=
  let text := formatter.writeAnswer outcome.answer
  let statistics := Statistics.write ⟨true, true⟩ outcome
  if !formatter.statistics || formatter.format.isJson || statistics.isEmpty then text
  else text ++ "\n" ++ formatter.paint.dim statistics

/-- The text of an error. -/
def writeError (formatter : Formatter) (error : ConsoleError) : String :=
  formatter.paint.error error.message

end Formatter

end DeviceConsole.Format
