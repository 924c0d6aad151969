import DeviceConsole.Device.Code

/-!
# `Device.Property` — a property code with its value

## Contents

* `Property` — the pair, written `EPC:EDT` in hexadecimal;
* `splitColon?`, `Property.read?` — reads that form;
* `findEpc?`, `assign`, `assignAll` — lists of properties, in which the first entry of a code counts.
-/

namespace DeviceConsole.Device

/-- A property code and the bytes of its value. -/
structure Property where
  epc : Epc
  edt : List UInt8
  deriving DecidableEq, Repr

/-- The texts in front of the first colon and behind it. -/
def splitColon? (text : List Char) : Option (List Char × List Char) :=
  let head := text.takeWhile (· != ':')
  match text.drop head.length with
  | [] => none
  | _ :: tail => some (head, tail)

namespace Property

/-- `EPC:EDT`. -/
def toText (property : Property) : String := property.epc.toText ++ ":" ++ edtText property.edt

/-- Reads `EPC:EDT` with a non-empty value. -/
def read? (text : List Char) : Option Property := do
  let (head, tail) ← splitColon? text
  let epc ← Epc.read? head
  let edt ← readEdt? tail
  return ⟨epc, edt⟩

/-- Reads `EPC:EDT` with a non-empty value. -/
def ofText? (text : String) : Option Property := read? text.toList

end Property

/-! ## Lists of properties -/

/-- The first entry of a code. -/
def findEpc? (epc : Epc) (properties : List Property) : Option Property :=
  properties.find? fun property => property.epc = epc

/-- Gives the first entry of a code the value; a list without such an entry stays as it is. -/
def replaceValue (wanted : Property) : List Property → List Property
  | [] => []
  | property :: rest =>
    if property.epc = wanted.epc then { property with edt := wanted.edt } :: rest
    else property :: replaceValue wanted rest

/-- Gives the first entry of a code the value, or appends an entry. -/
def assign (wanted : Property) : List Property → List Property
  | [] => [wanted]
  | property :: rest =>
    if property.epc = wanted.epc then { property with edt := wanted.edt } :: rest
    else property :: assign wanted rest

/-- Carries out several assignments in order. -/
def assignAll (wanted properties : List Property) : List Property :=
  wanted.foldl (fun properties wanted => assign wanted properties) properties

/-- Carries out several replacements in order. -/
def replaceValues (wanted properties : List Property) : List Property :=
  wanted.foldl (fun properties wanted => replaceValue wanted properties) properties

end DeviceConsole.Device
