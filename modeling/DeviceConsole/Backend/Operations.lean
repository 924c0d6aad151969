import DeviceConsole.Backend.State

/-!
# `Backend.Operations` — what commands do to the site

Every operation checks its arguments before it changes anything, so an operation that fails leaves the state as
it was.

## Contents

* `discover`, `getProperties`, `setProperties`, `updateProperties` — devices;
* `aliasSet`, `aliasGet`, `aliasDelete`, `aliasList` — aliases;
* `groupAdd`, `groupRemove`, `groupDelete`, `groupList` — groups;
* `setDebug` — the debug flag.
-/

namespace DeviceConsole.Backend

open Device (Criteria Endpoint Epc Property Specifier)

/-- Ends an operation with an error. -/
def fail {α : Type} (error : ExecutionError) : Action α := throw (.execution error)

/-- The value that is there, or an error. -/
def require {α : Type} (error : ExecutionError) : Option α → Action α
  | some value => pure value
  | none => fail error

/-! ## Devices -/

/-- Caches devices in order. -/
def cacheAll (known : OrderedMap Endpoint KnownDevice) (entries : List (Endpoint × KnownDevice)) :
    OrderedMap Endpoint KnownDevice :=
  entries.foldl (fun known entry => known.insert entry.1 entry.2) known

/-- Makes every device on the network known, with all its properties, and counts the known devices. -/
def discover (now : Time) : Action Nat := do
  let backend ← get
  let known := cacheAll backend.known
    (backend.network.entries.map fun entry => (entry.1, ⟨entry.2, now⟩))
  set { backend with known }
  return known.size

/-- Reads properties of a device and caches them. Without `skipValidation` the device has to be known. -/
def getProperties (now : Time) (device : Endpoint) (epcs : List Epc) (skipValidation : Bool) :
    Action Snapshot := do
  let backend ← get
  unless skipValidation || backend.known.contains device do
    fail (.deviceNotFound device.toText)
  let onNetwork ← require (.failed (.noResponse device)) (backend.network.get? device)
  let unsupported := epcs.filter fun epc => (Device.findEpc? epc onNetwork).isNone
  unless unsupported.isEmpty do
    fail (.failed (.cannotGet device unsupported))
  let answered := epcs.filterMap fun epc => Device.findEpc? epc onNetwork
  let cached := ((backend.known.get? device).map KnownDevice.properties).getD []
  set { backend with known := backend.known.insert device ⟨Device.assignAll answered cached, now⟩ }
  return ⟨device, backend.aliasOf? device, answered, now⟩

/-- Writes properties of a known device, on the network and in the cache. -/
def setProperties (now : Time) (device : Endpoint) (properties : List Property) : Action Snapshot := do
  let backend ← get
  let known ← require (.deviceNotFound device.toText) (backend.known.get? device)
  let onNetwork ← require (.failed (.noResponse device)) (backend.network.get? device)
  match properties.find? fun wanted => (Device.findEpc? wanted.epc onNetwork).isNone with
  | some missing => fail (.failed (.cannotSet device missing.epc))
  | none =>
    set { backend with
      network := backend.network.insert device (Device.replaceValues properties onNetwork)
      known := backend.known.insert device ⟨Device.assignAll properties known.properties, now⟩ }
    return ⟨device, backend.aliasOf? device, properties, now⟩

/-- Cached properties of this age are refreshed even without force: one minute. -/
def staleAfter : Time := 60 * 1000000000

/-- Whether a cache is old enough to be refreshed. -/
def isStale (now : Time) (known : KnownDevice) : Bool := decide (known.updated ≤ now - staleAfter)

/-- The refreshed cache of a selected device: with force, or when it is old, all that the network has. -/
def refreshed? (backend : Backend) (now : Time) (force : Bool) (entry : Endpoint × KnownDevice) :
    Option (Endpoint × KnownDevice) :=
  if force || isStale now entry.2 then
    (backend.network.get? entry.1).map fun properties => (entry.1, ⟨properties, now⟩)
  else none

/-- Refreshes the caches of selected devices and counts the refreshed ones. -/
def updateProperties (now : Time) (criteria : Criteria) (force : Bool) : Action Nat := do
  let backend ← get
  let fresh := (backend.selected criteria).filterMap (backend.refreshed? now force)
  set { backend with known := cacheAll backend.known fresh }
  return fresh.length

/-! ## Aliases -/

/-- Binds an alias to the one known device that criteria select. -/
def aliasSet (name : String) (criteria : Criteria) : Action Endpoint := do
  let backend ← get
  match backend.selected criteria with
  | [(device, _)] =>
    set { backend with aliases := backend.aliases.insert name device }
    return device
  | [] => fail (.deviceNotFound criteria.device.toText)
  | several => fail (.ambiguousDevice criteria.device.toText several.length)

/-- The device of an alias. -/
def aliasGet (name : String) : Action Endpoint := do
  require (.failed (.undefinedAlias name)) ((← get).aliases.get? name)

/-- Removes an alias and gives its device. -/
def aliasDelete (name : String) : Action Endpoint := do
  let backend ← get
  let device ← require (.failed (.undefinedAlias name)) (backend.aliases.get? name)
  set { backend with aliases := backend.aliases.erase name }
  return device

/-- All aliases with their devices. -/
def aliasList : Action (List (String × Endpoint)) := return (← get).aliases.entries

/-! ## Groups -/

/-- Adds devices to a group, which is made if it does not exist. -/
def groupAdd (group : String) (devices : List Endpoint) : Action Unit := do
  let backend ← get
  let members := addAllNew ((backend.groups.get? group).getD []) devices
  set { backend with groups := backend.groups.insert group members }

/-- Takes devices out of a group; a group without members is removed. -/
def groupRemove (group : String) (devices : List Endpoint) : Action Unit := do
  let backend ← get
  let members ← require (.failed (.undefinedGroup group)) (backend.groups.get? group)
  let left := members.filter fun member => member ∉ devices
  let groups :=
    if left.isEmpty then backend.groups.erase group else backend.groups.insert group left
  set { backend with groups }

/-- Removes a group. -/
def groupDelete (group : String) : Action Unit := do
  let backend ← get
  let _ ← require (.failed (.undefinedGroup group)) (backend.groups.get? group)
  set { backend with groups := backend.groups.erase group }

/-- One group, or all of them, with their members. -/
def groupList (group : Option String) : Action (List (String × List Endpoint)) := do
  let backend ← get
  match group with
  | none => return backend.groups.entries
  | some name =>
    let members ← require (.failed (.undefinedGroup name)) (backend.groups.get? name)
    return [(name, members)]

/-! ## The debug flag -/

/-- Turns debug mode on or off. -/
def setDebug (enabled : Bool) : Action Unit := modify fun backend => { backend with debug := enabled }

end DeviceConsole.Backend
