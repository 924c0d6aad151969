import DeviceConsole.Format.Style
import DeviceConsole.Json.Value
import DeviceConsole.Outcome
import DeviceConsole.Text.Timestamp

/-!
# `Format.Documents` — answers as JSON

```text
devices   [{"alias", "eoj", "ip", "properties": {EPC: {"name", "value"}}, "updated"}, ...]
grouped   {"group_by": EPC, "groups": {key: devices}}
aliases   {alias: {"eoj", "ip"}}
groups    {group: ["IP EOJ", ...]}
```

Members are in ascending order of their names, and of repeated names the last value stays.

## Contents

* `document` — the JSON document of an answer;
* `JsonLayout`, `JsonLayout.write` — its text.
-/

namespace DeviceConsole.Format

open Device (Endpoint)
open Json (Value)

/-! ## Documents -/

/-- A property of a row. -/
def propertyDocument (property : PropertyRow) : Value :=
  .sorted [("name", .ofText? property.name), ("value", .ofText property.value)]

/-- A device. -/
def endpointMembers (device : Endpoint) : List (String × Value) :=
  [("ip", .ofText device.ip.toText), ("eoj", .ofText device.eoj.toText)]

/-- A row. -/
def deviceDocument (row : DeviceRow) : Value :=
  .sorted (endpointMembers row.device ++
    [("alias", .ofText? row.aliasName),
      ("properties", .sorted (row.properties.map fun property =>
        (property.epc.toText, propertyDocument property))),
      ("updated", .ofText? (row.updated.map Text.Timestamp.write))])

/-- Several rows. -/
def devicesDocument (rows : List DeviceRow) : Value := .array (rows.map deviceDocument)

/-- An answer. -/
def document : Answer → Value
  | .devices rows => devicesDocument rows
  | .grouped epc groups =>
    .sorted [("group_by", .ofText epc.toText),
      ("groups", .sorted (groups.map fun (key, rows) => (key, devicesDocument rows)))]
  | .aliases aliases =>
    .sorted (aliases.map fun (name, device) => (name, .sorted (endpointMembers device)))
  | .groups groups =>
    .sorted (groups.map fun (name, members) =>
      (name, .array (members.map fun member => .ofText member.toText)))
  | .message text => .ofText text
  | .nothing => .null

/-! ## Text -/

/-- How documents are written: on one line, or on many with an indent. Documents on many lines that may be
coloured have an indent of two, whatever was asked for. The colours, which only a terminal is given, are no part of
the text. -/
structure JsonLayout where
  pretty : Bool := true
  colours : Bool := false
  indent : Nat := 2
  deriving DecidableEq, Repr

/-- The text of an answer. -/
def JsonLayout.write (layout : JsonLayout) (answer : Answer) : String :=
  if layout.pretty then (document answer).pretty (if layout.colours then 2 else layout.indent)
  else (document answer).compact

end DeviceConsole.Format
