import DeviceConsole.Device.Property
import DeviceConsole.Net.IpAddress

/-!
# `Device.Endpoint` — devices by address, and partial addresses

An endpoint is a device object at an address. A specifier leaves parts of an endpoint open and matches every
endpoint that agrees with the parts it gives. Endpoints are ordered by address, class and instance.

## Contents

* `Endpoint` — the devices, with their order and their text `address object`;
* `Specifier` — partial addresses, with `covers`, `exact` and their text;
* `Criteria` — a specifier and property values that a device has to hold.
-/

namespace DeviceConsole.Device

/-! ## Endpoints -/

/-- A device object at an address. -/
structure Endpoint where
  ip : Net.IpAddress
  eoj : Eoj
  deriving DecidableEq, Repr

namespace Endpoint

/-- Address, blank, object identifier. -/
def toText (device : Endpoint) : String := device.ip.toText ++ " " ++ device.eoj.toText

/-- The key of the address, then class and instance. -/
def orderKey (device : Endpoint) : List Nat :=
  device.ip.orderKey ++ [device.eoj.classCode.value.toNat, device.eoj.instanceCode.toNat]

theorem orderKey_injective {x y : Endpoint} (h : x.orderKey = y.orderKey) : x = y := by
  obtain ⟨xip, ⟨⟨xc⟩, xi⟩⟩ := x
  obtain ⟨yip, ⟨⟨yc⟩, yi⟩⟩ := y
  obtain ⟨ip, rest⟩ := List.append_inj' h rfl
  simp only [List.cons.injEq, and_true, UInt16.toNat_inj, UInt8.toNat_inj] at rest
  obtain ⟨hc, hi⟩ := rest
  have hip := Net.IpAddress.orderKey_injective ip
  subst hip; subst hc; subst hi
  rfl

instance : OrderKey Endpoint := ⟨orderKey, orderKey_injective⟩

end Endpoint

/-! ## Specifiers -/

/-- A partial address; a part that is absent is open. -/
structure Specifier where
  ip : Option Net.IpAddress := none
  classCode : Option ClassCode := none
  instanceCode : Option UInt8 := none
  deriving DecidableEq, Repr

namespace Specifier

/-- The specifier that every endpoint matches. -/
def any : Specifier := {}

/-- The specifier that only the given endpoint matches. -/
def exact (device : Endpoint) : Specifier :=
  ⟨some device.ip, some device.eoj.classCode, some device.eoj.instanceCode⟩

/-- Whether every part is open. -/
def isEmpty (specifier : Specifier) : Bool :=
  specifier.ip.isNone && specifier.classCode.isNone && specifier.instanceCode.isNone

/-- Whether an endpoint agrees with every part that is given. -/
def covers (specifier : Specifier) (device : Endpoint) : Bool :=
  specifier.ip.all (· = device.ip) && specifier.classCode.all (· = device.eoj.classCode) &&
    specifier.instanceCode.all (· = device.eoj.instanceCode)

/-- The class part: class, class and instance, or a star for an open class. -/
def objectParts (specifier : Specifier) : List String :=
  let instanceText (code : UInt8) := String.ofList (Text.Decimal.write code.toNat)
  match specifier.classCode, specifier.instanceCode with
  | some classCode, some code => [classCode.toText ++ ":" ++ instanceText code]
  | some classCode, none => [classCode.toText]
  | none, some code => ["*:" ++ instanceText code]
  | none, none => []

/-- The given parts with blanks between them. -/
def toText (specifier : Specifier) : String :=
  match (specifier.ip.map Net.IpAddress.toText).toList ++ specifier.objectParts with
  | [] => "(all devices)"
  | parts => " ".intercalate parts

end Specifier

/-! ## Criteria -/

/-- Devices that match a specifier and hold every one of some property values. -/
structure Criteria where
  device : Specifier := {}
  properties : List Property := []
  deriving DecidableEq, Repr

/-- Whether a device with the given properties is selected. -/
def Criteria.selects (criteria : Criteria) (device : Endpoint) (properties : List Property) : Bool :=
  criteria.device.covers device && criteria.properties.all (properties.contains ·)

end DeviceConsole.Device
