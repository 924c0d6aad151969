import DeviceConsole.Device.Endpoint

/-!
# `Command` — what a command line asks for

In a command every name of the line (alias, group, property alias) is already resolved.

## Contents

* `Target` — a device or a group;
* `PropertyMode` — which properties a listing shows;
* `DevicesCommand`, …, `Command` — the commands, with the `name` of each.
-/

namespace DeviceConsole

open Device (Epc Property Specifier Criteria)

/-! ## Parts -/

/-- Devices that a command acts on. The name of a group includes its at sign. -/
inductive Target where
  | device (specifier : Specifier)
  | group (name : String)
  deriving DecidableEq, Repr

namespace Target

/-- The specifier, or the name of the group. -/
def toText : Target → String
  | device specifier => specifier.toText
  | group name => name

/-- The class that the target names. -/
def classCode? : Target → Option Device.ClassCode
  | device specifier => specifier.classCode
  | group _ => none

end Target

/-- Which properties a listing shows: a few useful ones, every described one, every cached one, or those named
on the line. -/
inductive PropertyMode where
  | default
  | known
  | all
  | epc
  deriving DecidableEq, Repr

/-! ## Commands -/

/-- Lists devices that hold all of `properties`. -/
structure DevicesCommand where
  target : Option Target := none
  mode : PropertyMode := .default
  epcs : List Epc := []
  properties : List Property := []
  groupBy : Option Epc := none
  deriving DecidableEq, Repr

/-- Reads properties; with `skipValidation` also of a device that was never discovered. -/
structure GetCommand where
  target : Target
  epcs : List Epc
  skipValidation : Bool := false
  deriving DecidableEq, Repr

/-- Writes properties. -/
structure SetCommand where
  target : Target
  properties : List Property
  deriving DecidableEq, Repr

/-- Refreshes cached properties; with `force` also fresh ones. -/
structure UpdateCommand where
  target : Option Target := none
  force : Bool := false
  deriving DecidableEq, Repr

/-- Manages device aliases; `bind` binds a name to the one known device that the criteria select. -/
inductive AliasCommand where
  | list
  | get (name : String)
  | bind (name : String) (criteria : Criteria)
  | delete (name : String)
  deriving DecidableEq, Repr

/-- Manages groups. -/
inductive GroupCommand where
  | add (group : String) (devices : List Specifier)
  | remove (group : String) (devices : List Specifier)
  | delete (group : String)
  | list (group : Option String)
  deriving DecidableEq, Repr

/-- A command. -/
inductive Command where
  | discover
  | devices (command : DevicesCommand)
  | get (command : GetCommand)
  | set (command : SetCommand)
  | update (command : UpdateCommand)
  | aliases (command : AliasCommand)
  | group (command : GroupCommand)
  | debug (enabled : Option Bool)
  | help (topic : Option String)
  | quit
  deriving DecidableEq, Repr

/-- The command word. -/
def Command.name : Command → String
  | discover => "discover"
  | devices _ => "devices"
  | get _ => "get"
  | set _ => "set"
  | update _ => "update"
  | aliases _ => "alias"
  | group _ => "group"
  | debug _ => "debug"
  | help _ => "help"
  | quit => "quit"

end DeviceConsole
