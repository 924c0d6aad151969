import DeviceConsole.Device.Property
import DeviceConsole.Distinct

/-!
# `Device.PropertyTable` — names of properties and of their values

Some properties have a name, and some of their values do. A table describes the properties that all classes
share and, for three classes, further ones, which come first. The names of values are the aliases that a command
line may use in the stead of a value, with the property code or alone.

## Contents

* `Description`, `ClassDescription` — the entries, and the tables `common` and `classes`;
* `valueOfAlias?`, `valueAliases`, `describeValue` — names of values;
* `propertyOfAlias?`, `propertyAliases` — names that stand for a property and its value;
* `epcName?`, `knownEpcs`, `defaultEpcs` — names of properties, and which ones a listing shows.
-/

namespace DeviceConsole.Device.PropertyTable

/-! ## The table -/

/-- A property with its name and the names of some of its values. -/
structure Description where
  epc : Epc
  name : String
  values : List (String × List UInt8) := []
  deriving DecidableEq, Repr

/-- The properties of a class, and those of them that a plain listing shows. -/
structure ClassDescription where
  classCode : ClassCode
  properties : List Description
  primary : List Epc
  deriving DecidableEq, Repr

/-- The properties that every class has. -/
def common : List Description :=
  [⟨⟨0x80⟩, "Operation status", [("on", [0x30]), ("off", [0x31])]⟩,
   ⟨⟨0x81⟩, "Installation location",
    [("living", [0x08]), ("dining", [0x10]), ("kitchen", [0x18]), ("bathroom", [0x20]),
     ("washroom", [0x30]), ("hallway", [0x38]), ("room", [0x40]), ("entrance", [0x50]),
     ("garden", [0x60]), ("unspecified", [0x00])]⟩,
   ⟨⟨0x88⟩, "Fault status", [("fault", [0x41]), ("no_fault", [0x42])]⟩,
   ⟨⟨0x8A⟩, "Manufacturer code", []⟩,
   ⟨⟨0x9D⟩, "Status change announcement property map", []⟩,
   ⟨⟨0x9E⟩, "Set property map", []⟩,
   ⟨⟨0x9F⟩, "Get property map", []⟩]

/-- The common properties that a plain listing shows. -/
def commonPrimary : List Epc := [⟨0x80⟩, ⟨0x81⟩]

/-- The classes with further properties: home air conditioners, single function lighting and node profiles. -/
def classes : List ClassDescription :=
  [⟨⟨0x0130⟩,
    [⟨⟨0xA0⟩, "Air flow rate setting", [("flow_auto", [0x41])]⟩,
     ⟨⟨0xB0⟩, "Operation mode setting",
      [("auto", [0x41]), ("cooling", [0x42]), ("heating", [0x43]), ("dry", [0x44]), ("fan", [0x45])]⟩,
     ⟨⟨0xB3⟩, "Temperature setting", []⟩,
     ⟨⟨0xBB⟩, "Measured room temperature", []⟩],
    [⟨0xB0⟩, ⟨0xB3⟩, ⟨0xBB⟩]⟩,
   ⟨⟨0x0291⟩, [⟨⟨0xB0⟩, "Illuminance level", []⟩], [⟨0xB0⟩]⟩,
   ⟨⟨0x0EF0⟩,
    [⟨⟨0x83⟩, "Identification number", []⟩, ⟨⟨0xD6⟩, "Self-node instance list S", []⟩],
    [⟨0xD6⟩]⟩]

/-! ## Look-up -/

/-- The entry of a class. -/
def findClass? (classCode : ClassCode) : Option ClassDescription :=
  classes.find? fun entry => entry.classCode = classCode

/-- The properties described for a class, its own before the common ones. -/
def descriptions (classCode : Option ClassCode) : List Description :=
  ((classCode.bind findClass?).map ClassDescription.properties).getD [] ++ common

/-- The description of a property of a class. -/
def find? (classCode : Option ClassCode) (epc : Epc) : Option Description :=
  (descriptions classCode).find? fun description => description.epc = epc

/-! ## Names of values -/

/-- The value that a name stands for. -/
def Description.value? (description : Description) (name : String) : Option (List UInt8) :=
  (description.values.find? fun value => value.1 = name).map Prod.snd

/-- The value that a name stands for in a property of a class. -/
def valueOfAlias? (classCode : Option ClassCode) (epc : Epc) (name : String) : Option (List UInt8) :=
  (find? classCode epc).bind (·.value? name)

/-- The names of the values of a property, in table order. -/
def valueAliases (classCode : Option ClassCode) (epc : Epc) : List String :=
  ((find? classCode epc).map fun description => description.values.map Prod.fst).getD []

/-- A value by its name if it has one, else in hexadecimal. -/
def describeValue (classCode : ClassCode) (property : Property) : String :=
  let named (name : String) : Bool :=
    decide (valueOfAlias? (some classCode) property.epc name = some property.edt)
  ((valueAliases (some classCode) property.epc).find? named).getD (edtText property.edt)

/-! ## Names of properties with values -/

/-- The property and value that a name stands for alone. -/
def propertyOfAlias? (classCode : Option ClassCode) (name : String) : Option Property :=
  (descriptions classCode).findSome? fun description =>
    (description.value? name).map fun edt => ⟨description.epc, edt⟩

/-- The names that stand for a property and its value, each once. -/
def propertyAliases (classCode : Option ClassCode) : List String :=
  addAllNew [] ((descriptions classCode).flatMap fun description => description.values.map Prod.fst)

/-! ## Names of properties -/

/-- The name of a property. -/
def epcName? (classCode : ClassCode) (epc : Epc) : Option String :=
  (find? (some classCode) epc).map Description.name

/-- The described properties of a class, in ascending order. -/
def knownEpcs (classCode : ClassCode) : List Epc :=
  ((List.range 256).map fun code => (⟨UInt8.ofNat code⟩ : Epc)).filter fun epc =>
    (descriptions (some classCode)).any fun description => description.epc = epc

/-- The properties of a class that a plain listing shows. -/
def defaultEpcs (classCode : ClassCode) : List Epc :=
  commonPrimary ++ ((findClass? classCode).map ClassDescription.primary).getD []

end DeviceConsole.Device.PropertyTable
