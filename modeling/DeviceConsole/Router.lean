import DeviceConsole.Backend.Operations
import DeviceConsole.Help
import DeviceConsole.Outcome

/-!
# `Router` — carrying out commands

A command becomes operations on the site, and their answers become rows. A reading or writing acts on the one
known device that its specifier matches, or on the members of a group one after the other, until one fails: the
site answers at once, so requests to several members are never under way together.

A command is carried out at one instant. All devices that it discovers, reads, writes or refreshes are stamped with
that time, and how long the command takes is not measured.

## Contents

* `deviceRow` — the row of a device for given property codes;
* `members`, `resolve`, `expand` — the devices that a command acts on;
* `listing`, `reading`, `writing`, `refreshing`, `aliasing`, `grouping` — the commands;
* `route` — any command.
-/

namespace DeviceConsole.Router

open Device (Endpoint Epc Specifier findEpc?)
open Device.PropertyTable (defaultEpcs describeValue epcName? knownEpcs)
open Backend (fail)

/-- A number of devices with what happened to them. -/
def counted (count : Nat) (what : String) : String :=
  String.ofList (Text.Decimal.write count) ++ " device(s) " ++ what

/-! ## Rows -/

/-- The row of a device: of the given codes those that it has a value for, in order. -/
def deviceRow (snapshot : Snapshot) (epcs : List Epc) : DeviceRow :=
  let classCode := snapshot.device.eoj.classCode
  { device := snapshot.device
    aliasName := snapshot.aliasName
    properties := (epcs.filterMap fun epc => findEpc? epc snapshot.properties).map fun property =>
      ⟨property.epc, epcName? classCode property.epc, describeValue classCode property⟩
    updated := some snapshot.updated }

/-- The property codes that a listing shows of a device. -/
def shownEpcs (command : DevicesCommand) (snapshot : Snapshot) : List Epc :=
  match command.mode with
  | .default => defaultEpcs snapshot.device.eoj.classCode
  | .known => knownEpcs snapshot.device.eoj.classCode
  | .all => snapshot.properties.map Device.Property.epc
  | .epc => command.epcs

/-! ## Devices that a command acts on -/

/-- The members of a group. -/
def members (group : String) : Action (List Endpoint) := do
  return (← Backend.groupList (some group)).flatMap Prod.snd

/-- The devices of a reading or writing. With `allowUnknown` a specifier with an address and a class names its
device even if no known device matches it; the instance is 1 unless it is given. -/
def resolve (target : Target) (allowUnknown : Bool) : Action (List Endpoint) := do
  match target with
  | .group name => members name
  | .device specifier =>
    match (← get).findDevices specifier with
    | [device] => return [device]
    | [] =>
      match allowUnknown, specifier.ip, specifier.classCode with
      | true, some ip, some classCode =>
        return [⟨ip, ⟨classCode, specifier.instanceCode.getD 1⟩⟩]
      | _, _, _ => fail (.deviceNotFound specifier.toText)
    | several => fail (.ambiguousDevice specifier.toText several.length)

/-- The known devices that any of the specifiers matches, each once; a specifier that matches none fails. -/
def expand : List Specifier → List Endpoint → Action (List Endpoint)
  | [], found => return found
  | specifier :: rest, found => do
    let devices := (← get).findDevices specifier
    if devices.isEmpty then fail (.deviceNotFound specifier.toText)
    else expand rest (addAllNew found devices)

/-! ## Listing -/

/-- Puts a row under its key; keys stay in order of first use. -/
def addRow (key : String) (row : DeviceRow) :
    List (String × List DeviceRow) → List (String × List DeviceRow)
  | [] => [(key, [row])]
  | group :: rest =>
    if group.1 = key then (key, group.2 ++ [row]) :: rest else group :: addRow key row rest

/-- The value by which a listing groups a device. -/
def groupKey (epc : Epc) (snapshot : Snapshot) : String :=
  ((findEpc? epc snapshot.properties).map (describeValue snapshot.device.eoj.classCode)).getD "(none)"

/-- The devices that a listing shows. -/
def listed (command : DevicesCommand) : Action (List Snapshot) := do
  match command.target with
  | some (.group name) =>
    let members ← members name
    let all := (← get).listDevices ⟨.any, command.properties⟩
    return all.filter fun snapshot => snapshot.device ∈ members
  | some (.device specifier) => return (← get).listDevices ⟨specifier, command.properties⟩
  | none => return (← get).listDevices ⟨.any, command.properties⟩

/-- The answer of a listing over the devices that it shows. -/
def present (command : DevicesCommand) (snapshots : List Snapshot) : Answer :=
  let row (snapshot : Snapshot) : DeviceRow := deviceRow snapshot (shownEpcs command snapshot)
  match command.groupBy with
  | none => .devices (snapshots.map row)
  | some epc =>
    .grouped epc (snapshots.foldl
      (fun groups snapshot => addRow (groupKey epc snapshot) (row snapshot) groups) [])

/-- Lists devices. -/
def listing (command : DevicesCommand) : Action Outcome := do
  let snapshots ← listed command
  return { answer := present command snapshots, devices := snapshots.length }

/-! ## Reading and writing -/

/-- Reads properties. -/
def reading (now : Time) (command : GetCommand) : Action Outcome := do
  let devices ← resolve command.target command.skipValidation
  let snapshots ← devices.mapM fun device =>
    Backend.getProperties now device command.epcs command.skipValidation
  return { answer := .devices (snapshots.map (deviceRow · command.epcs)), devices := devices.length }

/-- Writes properties. -/
def writing (now : Time) (command : SetCommand) : Action Outcome := do
  let devices ← resolve command.target false
  let snapshots ← devices.mapM fun device => Backend.setProperties now device command.properties
  let epcs := command.properties.map Device.Property.epc
  return { answer := .devices (snapshots.map (deviceRow · epcs)), devices := devices.length }

/-- The specifiers of the devices that a refresh selects. -/
def refreshTargets : Option Target → Action (List Specifier)
  | none => return [.any]
  | some (.device specifier) => return [specifier]
  | some (.group name) => return (← members name).map .exact

/-- Refreshes cached properties. -/
def refreshing (now : Time) (command : UpdateCommand) : Action Outcome := do
  let specifiers ← refreshTargets command.target
  let counts ← specifiers.mapM fun specifier =>
    Backend.updateProperties now ⟨specifier, []⟩ command.force
  let total := counts.foldl (· + ·) 0
  return { answer := .message (counted total "updated"), devices := total }

/-! ## Aliases and groups -/

/-- Manages aliases. -/
def aliasing : AliasCommand → Action Outcome
  | .list => return { answer := .aliases (← Backend.aliasList) }
  | .get name => return { answer := .aliases [(name, ← Backend.aliasGet name)] }
  | .bind name criteria => do
    let device ← Backend.aliasSet name criteria
    return { answer := .message ("Alias '" ++ name ++ "' now refers to " ++ device.toText) }
  | .delete name => do
    let device ← Backend.aliasDelete name
    return { answer := .message ("Alias '" ++ name ++ "' (" ++ device.toText ++ ") deleted") }

/-- Manages groups. -/
def grouping : GroupCommand → Action Outcome
  | .add group specifiers => do
    let devices ← expand specifiers []
    Backend.groupAdd group devices
    return { answer := .message (counted devices.length ("added to " ++ group)) }
  | .remove group specifiers => do
    let devices ← expand specifiers []
    Backend.groupRemove group devices
    return { answer := .message (counted devices.length ("removed from " ++ group)) }
  | .delete group => do
    Backend.groupDelete group
    return { answer := .message ("Group " ++ group ++ " deleted") }
  | .list group => return { answer := .groups (← Backend.groupList group) }

/-! ## Any command -/

/-- The name of a setting. -/
def onOff (enabled : Bool) : String := if enabled then "on" else "off"

/-- Shows or changes the debug flag. -/
def debugging : Option Bool → Action Outcome
  | none => return { answer := .message ("Debug mode is " ++ onOff (← get).debug) }
  | some enabled => do
    Backend.setDebug enabled
    return { answer := .message ("Debug mode turned " ++ onOff enabled) }

/-- The answer to a farewell. -/
def farewell : Outcome := { answer := .message "Bye" }

/-- Carries out a command at a time. -/
def route (now : Time) : Command → Action Outcome
  | .discover => do
    let count ← Backend.discover now
    return { answer := .message (counted count "found"), devices := count }
  | .devices command => listing command
  | .get command => reading now command
  | .set command => writing now command
  | .update command => refreshing now command
  | .aliases command => aliasing command
  | .group command => grouping command
  | .debug enabled => debugging enabled
  | .help topic =>
    match Help.render topic with
    | .ok text => return { answer := .message text }
    | .error error => throw (.grammar error)
  | .quit => return farewell

end DeviceConsole.Router
