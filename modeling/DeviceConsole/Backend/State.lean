import DeviceConsole.Device.PropertyTable
import DeviceConsole.Command.Builder

/-!
# `Backend.State` — the simulated site

Devices on the network answer requests. A device becomes known once it is discovered or read; then its
properties are cached with the time of the last answer. Aliases name devices and groups name lists of devices.

## Contents

* `Backend` — the state, and `Backend.empty`;
* `Snapshot` — what an operation tells of a device;
* `Backend.aliasOf?`, `Backend.selected`, `Backend.findDevices`, `Backend.listDevices` — what is asked of the
  state;
* `Backend.directory` — the names that command lines may use;
* `Action` — operations that may change the state and may fail.
-/

namespace DeviceConsole

open Device (Criteria Endpoint Epc Property Specifier)

/-- Nanoseconds since the beginning of 1970. -/
abbrev Time := Int

/-- Cached properties of a device and the time of its last answer. -/
structure KnownDevice where
  properties : List Property
  updated : Time
  deriving DecidableEq, Repr

/-- The state of the site. -/
structure Backend where
  network : OrderedMap Endpoint (List Property)
  known : OrderedMap Endpoint KnownDevice
  aliases : OrderedMap String Endpoint
  groups : OrderedMap String (List Endpoint)
  debug : Bool

/-- What an operation tells of a device. -/
structure Snapshot where
  device : Endpoint
  aliasName : Option String
  properties : List Property
  updated : Time
  deriving DecidableEq, Repr

/-- Operations on the site. A failed operation leaves the state that it reached. -/
abbrev Action (α : Type) := ExceptT ConsoleError (StateM Backend) α

namespace Backend

/-- A site without devices. -/
def empty : Backend := ⟨.empty, .empty, .empty, .empty, false⟩

/-- Puts a device on the network. -/
def withDevice (backend : Backend) (device : Endpoint) (properties : List Property) : Backend :=
  { backend with network := backend.network.insert device properties }

/-! ## Questions -/

/-- The first alias of a device. -/
def aliasOf? (backend : Backend) (device : Endpoint) : Option String :=
  (backend.aliases.entries.find? fun entry => entry.2 = device).map Prod.fst

/-- The known devices that criteria select, in order, with their caches. -/
def selected (backend : Backend) (criteria : Criteria) : List (Endpoint × KnownDevice) :=
  backend.known.entries.filter fun entry => criteria.selects entry.1 entry.2.properties

/-- The known devices that a specifier matches, in order. -/
def findDevices (backend : Backend) (specifier : Specifier) : List Endpoint :=
  backend.known.keys.filter specifier.covers

/-- The known devices that criteria select, with everything cached. -/
def listDevices (backend : Backend) (criteria : Criteria) : List Snapshot :=
  (backend.selected criteria).map fun (device, known) =>
    ⟨device, backend.aliasOf? device, known.properties, known.updated⟩

/-- The names that command lines may use. -/
def directory (backend : Backend) : Directory where
  alias? := backend.aliases.get?
  group? := backend.groups.get?
  valueOfAlias? := Device.PropertyTable.valueOfAlias?
  valueAliases := Device.PropertyTable.valueAliases
  propertyOfAlias? := Device.PropertyTable.propertyOfAlias?

end Backend

end DeviceConsole
