import DeviceConsole.Device.Endpoint
import DeviceConsole.Json.Reader

/-!
# `Device.Record` — properties and endpoints as JSON records

A record is an object with named fields; read, it may also be an array of the fields in their order. Fields that
the record does not have are passed over, and a field that is missing or repeated is refused. Codes are numbers,
property values are hexadecimal texts (possibly empty) and addresses are texts.

## Contents

* `fields?` — the fields of a record;
* `Property.toJson`, `Property.ofJson?`, `Endpoint.toJson`, `Endpoint.ofJson?` — the records;
* `Specifier.toJson` — a partial address, open parts as null.
-/

namespace DeviceConsole.Device

open Json (Value)

/-! ## Records -/

/-- The one value of a name; `none` if it is missing or repeated. -/
def uniqueField? (members : List (Option String × Value)) (name : String) : Option Value :=
  match members.filter fun member => member.1 == some name with
  | [member] => some member.2
  | _ => none

/-- The fields of a record in the order of `names`. -/
def fields? (names : List String) : Value → Option (List Value)
  | .array items => if items.length = names.length then some items else none
  | .object members =>
    if members.all (·.1.isSome) then names.mapM (uniqueField? members) else none
  | _ => none

/-- A natural number of at most `limit`. -/
def natural? (limit : Nat) : Value → Option Nat
  | .natural value => if value ≤ limit then some value else none
  | _ => none

/-- A text. -/
def text? : Value → Option String
  | .text value => value
  | _ => none

/-! ## Properties -/

/-- Fields `epc` and `edt`. -/
def Property.toJson (property : Property) : Value :=
  .record [("epc", .natural property.epc.value.toNat), ("edt", .ofText (edtText property.edt))]

/-- Reads fields `epc` and `edt`. -/
def Property.ofJson? (value : Value) : Option Property := do
  match ← fields? ["epc", "edt"] value with
  | [epc, edt] =>
    let epc ← natural? 255 epc
    let edt ← (text? edt).bind fun text => Text.Hex.readBytes? text.toList
    return ⟨⟨UInt8.ofNat epc⟩, edt⟩
  | _ => none

/-! ## Endpoints -/

/-- Fields `class_code` and `instance_code`. -/
def Eoj.toJson (eoj : Eoj) : Value :=
  .record [("class_code", .natural eoj.classCode.value.toNat),
    ("instance_code", .natural eoj.instanceCode.toNat)]

/-- Reads fields `class_code` and `instance_code`. -/
def Eoj.ofJson? (value : Value) : Option Eoj := do
  match ← fields? ["class_code", "instance_code"] value with
  | [classCode, instanceCode] =>
    return ⟨⟨UInt16.ofNat (← natural? 65535 classCode)⟩, UInt8.ofNat (← natural? 255 instanceCode)⟩
  | _ => none

/-- Fields `ip` and `eoj`. -/
def Endpoint.toJson (device : Endpoint) : Value :=
  .record [("ip", .ofText device.ip.toText), ("eoj", device.eoj.toJson)]

/-- Reads fields `ip` and `eoj`. -/
def Endpoint.ofJson? (value : Value) : Option Endpoint := do
  match ← fields? ["ip", "eoj"] value with
  | [ip, eoj] => return ⟨← (text? ip).bind Net.IpAddress.ofText?, ← Eoj.ofJson? eoj⟩
  | _ => none

/-- Fields `ip`, `class_code` and `instance_code`. -/
def Specifier.toJson (specifier : Specifier) : Value :=
  .record [("ip", .ofText? (specifier.ip.map Net.IpAddress.toText)),
    ("class_code", (specifier.classCode.map fun code => .natural code.value.toNat).getD .null),
    ("instance_code", (specifier.instanceCode.map fun code => .natural code.toNat).getD .null)]

end DeviceConsole.Device
