import DeviceConsole.Command
import DeviceConsole.Error

/-!
# `Command.Builder` — from a matched line to a command

The result of a match is flattened to its meaningful items, and each command is built from the items in their
order. On the way names are looked up in a directory and values are checked.

## Contents

* `Directory` — the names that a line may use;
* `Matched.items` — the items of a match;
* `Directory.target`, `Directory.specifier`, `Directory.property` — one argument;
* `Directory.build` — the command;
* `Directory.parse` — the command of a line.
-/

namespace DeviceConsole

open Device (ClassCode Criteria Endpoint Epc Property Specifier checkAlias checkGroup)
open Grammar (DeviceArg Matched PropertyArg)

/-! ## Names -/

/-- The names that a line may use: device aliases, groups, and the names of properties and values. -/
structure Directory where
  alias? : String → Option Endpoint
  group? : String → Option (List Endpoint)
  valueOfAlias? : Option ClassCode → Epc → String → Option (List UInt8)
  valueAliases : Option ClassCode → Epc → List String
  propertyOfAlias? : Option ClassCode → String → Option Property

/-! ## Items -/

namespace Grammar

mutual

/-- The items of a match in input order, without its structure and without parts that were skipped. -/
def Matched.items : Matched → List Matched
  | .seq parts => itemsOfAll parts
  | .repeated parts => itemsOfAll parts
  | .skipped => []
  | item => [item]

/-- The items of several matches. -/
def itemsOfAll : List Matched → List Matched
  | [] => []
  | part :: rest => part.items ++ itemsOfAll rest

end

end Grammar

namespace Directory

variable (directory : Directory)

/-! ## Arguments -/

/-- An instance number between 1 and 255. -/
def checkInstance (code : Nat) : Except ConsoleError UInt8 :=
  if 1 ≤ code ∧ code ≤ 255 then .ok (UInt8.ofNat code)
  else .error (.invalidValue (.instanceOutOfRange code))

/-- The specifier of an argument that has to name devices itself. -/
def specifier : DeviceArg → Except ConsoleError Specifier
  | .address ip classCode none => .ok ⟨ip, classCode, none⟩
  | .address ip classCode (some code) => (checkInstance code).map fun code => ⟨ip, classCode, some code⟩
  | .aliased name =>
    match directory.alias? name with
    | some device => .ok (.exact device)
    | none => .error (.lookupFailure (.deviceAlias name))
  | .group name => .error (.invalidValue (.groupNotAllowed name))

/-- The target of an argument that may be a group. -/
def target : DeviceArg → Except ConsoleError Target
  | .group name =>
    if (directory.group? name).isSome then .ok (.group name)
    else .error (.lookupFailure (.group name))
  | arg => (directory.specifier arg).map .device

/-- The property of an argument for devices of a class. -/
def property (classCode : Option ClassCode) : PropertyArg → Except ConsoleError Property
  | .raw epc edt => .ok ⟨epc, edt⟩
  | .valueAlias epc name =>
    match directory.valueOfAlias? classCode epc name with
    | some edt => .ok ⟨epc, edt⟩
    | none =>
      .error (.lookupFailure (.valueAlias name epc (directory.valueAliases classCode epc)))
  | .aliased name =>
    match directory.propertyOfAlias? classCode name with
    | some property => .ok property
    | none => .error (.lookupFailure (.propertyAlias name))

/-- The properties of items that have to be properties. -/
def properties (classCode : Option ClassCode) : List Matched → Except ConsoleError (List Property)
  | [] => .ok []
  | .property arg :: rest => do
    let first ← directory.property classCode arg
    return first :: (← properties classCode rest)
  | _ :: _ => .error (.invalidValue .unexpectedItem)

/-- The specifiers of items that have to be devices. -/
def specifiers : List Matched → Except ConsoleError (List Specifier)
  | [] => .ok []
  | .device arg :: rest => do
    let first ← directory.specifier arg
    return first :: (← specifiers rest)
  | _ :: _ => .error (.invalidValue .unexpectedItem)

/-! ## Listing -/

/-- A listing under construction, and which of the two mode options were seen. -/
structure Draft where
  command : DevicesCommand := {}
  showAll : Bool := false
  showKnown : Bool := false

/-- The mode of a finished listing: the widest that was asked for. -/
def Draft.mode (draft : Draft) : PropertyMode :=
  if draft.showAll then .all
  else if draft.showKnown then .known
  else if draft.command.epcs.isEmpty then .default
  else .epc

/-- The finished listing. -/
def Draft.finish (draft : Draft) : DevicesCommand := { draft.command with mode := draft.mode }

/-- Adds a property code to a listing. -/
def Draft.addEpc (draft : Draft) (epc : Epc) : Draft :=
  { draft with command := { draft.command with epcs := draft.command.epcs ++ [epc] } }

/-- Adds a property value to a listing. -/
def Draft.addProperty (draft : Draft) (property : Property) : Draft :=
  { draft with command := { draft.command with properties := draft.command.properties ++ [property] } }

/-- Sets the target of a listing. -/
def Draft.setTarget (draft : Draft) (target : Target) : Draft :=
  { draft with command := { draft.command with target := some target } }

/-- Takes one item into a listing. A word that looks like an alias and is none may be a property code or a
property alias. -/
def addItem (draft : Draft) : Matched → Except ConsoleError Draft
  | .device (.aliased name) =>
    match directory.alias? name with
    | some device => .ok (draft.setTarget (.device (.exact device)))
    | none =>
      match Epc.ofText? name with
      | some epc => .ok (draft.addEpc epc)
      | none =>
        match directory.propertyOfAlias? none name with
        | some property => .ok (draft.addProperty property)
        | none => .error (.lookupFailure (.neitherAlias name))
  | .device arg => (directory.target arg).map draft.setTarget
  | .keyword .listOption "-all" => .ok { draft with showAll := true }
  | .keyword .listOption "-props" => .ok { draft with showKnown := true }
  | .groupBy epc => .ok { draft with command := { draft.command with groupBy := some epc } }
  | .epc epc => .ok (draft.addEpc epc)
  | .property arg =>
    (directory.property (draft.command.target.bind Target.classCode?) arg).map draft.addProperty
  | _ => .error (.invalidValue .unexpectedItem)

/-- The listing that items describe. -/
def devices (items : List Matched) : Except ConsoleError DevicesCommand :=
  (items.foldlM directory.addItem {}).map Draft.finish

/-! ## Reading and writing -/

/-- The target at the front of items, and the items after it. -/
def frontTarget : List Matched → Except ConsoleError (Target × List Matched)
  | .device arg :: rest => (directory.target arg).map (·, rest)
  | _ :: _ => .error (.invalidValue .unexpectedItem)
  | [] => .error (.invalidValue .missingDevice)

/-- The property codes of items, and whether the option is among them. -/
def requested : List Matched → Except ConsoleError (List Epc × Bool)
  | [] => .ok ([], false)
  | .epc epc :: rest => (requested rest).map fun (epcs, skip) => (epc :: epcs, skip)
  | .keyword .getOption _ :: rest => (requested rest).map fun (epcs, _) => (epcs, true)
  | _ :: _ => .error (.invalidValue .unexpectedItem)

/-- The reading that items describe. -/
def get (items : List Matched) : Except ConsoleError GetCommand := do
  let (target, rest) ← directory.frontTarget items
  let (epcs, skipValidation) ← requested rest
  if epcs.isEmpty then throw (.invalidValue .noEpc)
  return ⟨target, epcs, skipValidation⟩

/-- The writing that items describe. -/
def set (items : List Matched) : Except ConsoleError SetCommand := do
  let (target, rest) ← directory.frontTarget items
  return ⟨target, ← directory.properties target.classCode? rest⟩

/-- Takes one item into a refresh. -/
def addUpdateItem (command : UpdateCommand) : Matched → Except ConsoleError UpdateCommand
  | .device arg => (directory.target arg).map fun target => { command with target := some target }
  | .keyword .updateOption _ => .ok { command with force := true }
  | _ => .error (.invalidValue .unexpectedItem)

/-- The refresh that items describe. -/
def update (items : List Matched) : Except ConsoleError UpdateCommand :=
  items.foldlM directory.addUpdateItem {}

/-! ## Aliases and groups -/

/-- The alias command that items describe. -/
def aliases : List Matched → Except ConsoleError AliasCommand
  | [] => .ok .list
  | .keyword .deleteOption _ :: rest =>
    match rest with
    | .name .aliasName name :: _ => .ok (.delete name)
    | _ => .error (.invalidValue .missingDeletedAlias)
  | [.name .aliasName name] => .ok (.get name)
  | .name .aliasName name :: .device arg :: rest => do
    let device ← directory.specifier arg
    (checkAlias name).mapError fun error => .invalidValue (.badName error)
    return .bind name ⟨device, ← directory.properties device.classCode rest⟩
  | _ => .error (.invalidValue .unexpectedItem)

/-- The name of a group at the front of items, and the items after it. -/
def frontGroup : List Matched → Except ConsoleError (Option String × List Matched)
  | [] => .ok (none, [])
  | .name .groupName name :: rest =>
    match checkGroup name with
    | .ok _ => .ok (some name, rest)
    | .error error => .error (.invalidValue (.badName error))
  | _ => .error (.invalidValue .unexpectedItem)

/-- The group command that items describe. -/
def group : List Matched → Except ConsoleError GroupCommand
  | .keyword .groupAction action :: rest => do
    let (name, rest) ← frontGroup rest
    let devices ← directory.specifiers rest
    match action, name with
    | "add", some name => return .add name devices
    | "remove", some name => return .remove name devices
    | "delete", some name => return .delete name
    | "list", name => return .list name
    | action, _ => throw (.invalidValue (.missingGroupName action))
  | _ => .error (.invalidValue .missingGroupAction)

/-! ## Commands -/

/-- The setting that items ask for. -/
def debugSetting : List Matched → Option Bool
  | .keyword .onOff "on" :: _ => some true
  | .keyword .onOff _ :: _ => some false
  | _ => none

/-- The help topic among items. -/
def helpTopic (items : List Matched) : Option String :=
  items.findSome? fun
    | .name .helpTopic topic => some topic
    | _ => none

/-- The command that items after a command word describe. -/
def buildNamed (name : String) (items : List Matched) : Except ConsoleError Command :=
  match name with
  | "discover" => .ok .discover
  | "devices" | "list" => (directory.devices items).map .devices
  | "get" => (directory.get items).map .get
  | "set" => (directory.set items).map .set
  | "update" => (directory.update items).map .update
  | "alias" => (directory.aliases items).map .aliases
  | "group" => (directory.group items).map .group
  | "debug" => .ok (.debug (debugSetting items))
  | "help" => .ok (.help (helpTopic items))
  | "quit" => .ok .quit
  | name => .error (.invalidValue (.unknownCommandWord name))

/-- The command of a match. -/
def build (matched : Matched) : Except ConsoleError Command :=
  match matched.items with
  | .keyword .command name :: rest => directory.buildNamed name rest
  | _ => .error (.invalidValue .noCommandWord)

/-- The command of a line. -/
def parse (line : String) : Except ConsoleError Command :=
  match Grammar.parseTokens (Grammar.tokenize line) with
  | .ok matched => directory.build matched
  | .error mismatch => .error (.mismatch mismatch)

end Directory

end DeviceConsole
