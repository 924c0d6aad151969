import DeviceConsole.Backend.State
import DeviceConsole.Settings.Basic

/-!
# `Settings.Network` — the devices of a settings file

## Contents

* `DeviceEntry.read` — a device with its properties, or the first wrong part of an entry;
* `Backend.ofEntries` — the site of some entries; of two entries for one device the last counts;
* `isPropertyText`, `checkEntries`, `Settings.check` — the first wrong value of settings; nothing is built.
-/

namespace DeviceConsole

open Device (Endpoint Property)

/-! ## The site -/

/-- The value that is there, or an error about a field. -/
def orInvalid {α : Type} (field text : String) : Option α → Except SettingsError α
  | some value => .ok value
  | none => .error (.invalidValue field text)

/-- A property of an entry. -/
def readProperty (text : String) : Except SettingsError Property :=
  orInvalid "devices.properties" text (Property.ofText? text)

/-- A device with its properties. -/
def DeviceEntry.read (entry : DeviceEntry) : Except SettingsError (Endpoint × List Property) := do
  let ip ← orInvalid "devices.ip" entry.ip (Net.IpAddress.ofText? entry.ip)
  let eoj ← orInvalid "devices.eoj" entry.eoj (Device.Eoj.ofText entry.eoj).toOption
  let properties ← entry.properties.mapM readProperty
  return (⟨ip, eoj⟩, properties)

/-- Puts the devices of entries on the network of a site. -/
def Backend.addEntries : List DeviceEntry → Backend → Except SettingsError Backend
  | [], backend => .ok backend
  | entry :: rest, backend => do
    let (device, properties) ← entry.read
    addEntries rest (backend.withDevice device properties)

/-- The site of some entries. -/
def Backend.ofEntries (entries : List DeviceEntry) : Except SettingsError Backend :=
  Backend.addEntries entries .empty

/-! ## The check -/

/-- Whether a text is a property: a code, a colon, and a value with a byte. -/
def isPropertyText (text : String) : Bool :=
  (Device.splitColon? text.toList).any fun (head, tail) =>
    (Device.Epc.read? head).isSome && (Device.readEdt? tail).isSome

/-- The first wrong property of an entry. -/
def checkProperties : List String → Except SettingsError Unit
  | [] => .ok ()
  | text :: rest =>
    if isPropertyText text then checkProperties rest
    else .error (.invalidValue "devices.properties" text)

/-- The first wrong part of some entries. -/
def checkEntries : List DeviceEntry → Except SettingsError Unit
  | [] => .ok ()
  | entry :: rest =>
    if (Net.IpAddress.ofText? entry.ip).isNone then .error (.invalidValue "devices.ip" entry.ip)
    else if (Device.Eoj.ofText entry.eoj).toOption.isNone then .error (.invalidValue "devices.eoj" entry.eoj)
    else
      match checkProperties entry.properties with
      | .ok _ => checkEntries rest
      | .error error => .error error

/-- The first wrong value of settings. -/
def Settings.check (settings : Settings) : Except SettingsError Unit :=
  if settings.history.size = 0 then .error (.invalidValue "history.max_size" "0")
  else if settings.console.prompt.isEmpty then .error (.invalidValue "console.prompt" "")
  else checkEntries settings.devices

end DeviceConsole
