import DeviceConsole.Device.Endpoint
import DeviceConsole.Backend.State

/-!
# `Outcome` — what a command answers

## Contents

* `PropertyRow`, `DeviceRow` — a device as it is shown;
* `Answer` — rows, aliases, groups, a message, or nothing;
* `Outcome` — an answer with the number of devices that the command touched or shows.
-/

namespace DeviceConsole

open Device (Endpoint Epc)

/-- A property as it is shown: its value by name where there is one, else in hexadecimal. -/
structure PropertyRow where
  epc : Epc
  name : Option String
  value : String
  deriving DecidableEq, Repr

/-- A device as it is shown. -/
structure DeviceRow where
  device : Endpoint
  aliasName : Option String
  properties : List PropertyRow
  updated : Option Time
  deriving DecidableEq, Repr

/-- What there is to show. -/
inductive Answer where
  | devices (rows : List DeviceRow)
  | grouped (epc : Epc) (groups : List (String × List DeviceRow))
  | aliases (aliases : List (String × Endpoint))
  | groups (groups : List (String × List Endpoint))
  | message (text : String)
  | nothing
  deriving DecidableEq, Repr

/-- The answer of a command that succeeded, the number of devices it touched or shows, and how long it took. No
command sets the time that it takes, so it is zero unless a formatter is given another one. -/
structure Outcome where
  answer : Answer
  devices : Nat := 0
  milliseconds : Nat := 0
  deriving DecidableEq, Repr

end DeviceConsole
