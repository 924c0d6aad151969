import DeviceConsole.Text.Hex
import DeviceConsole.Text.Decimal

/-!
# `Device.Code` — class codes, property codes and object identifiers

A device object is named by its class code (two bytes) and an instance number; each of its properties is named
by an EPC (one byte) and holds an EDT (bytes). Codes are written in upper-case hexadecimal with all their
digits and read in either case.

## Contents

* `ClassCode`, `Epc`, `Eoj` — the codes, each with `toText` and a reader;
* `Eoj.ReadError` — why a text is no object identifier;
* `readEdt?` — a non-empty byte string.
-/

namespace DeviceConsole.Device

/-! ## Class codes -/

/-- Class group and class of a device object. -/
structure ClassCode where
  value : UInt16
  deriving DecidableEq, Repr

namespace ClassCode

/-- Four upper-case hexadecimal digits. -/
def toText (code : ClassCode) : String := String.ofList (Text.Hex.fixed 4 code.value.toNat)

/-- Reads exactly four hexadecimal digits. -/
def read? (text : List Char) : Option ClassCode :=
  (Text.Hex.readNumber? 4 text).map fun value => ⟨UInt16.ofNat value⟩

/-- Reads exactly four hexadecimal digits. -/
def ofText? (text : String) : Option ClassCode := read? text.toList

end ClassCode

/-! ## Property codes -/

/-- The code of a property. -/
structure Epc where
  value : UInt8
  deriving DecidableEq, Repr

namespace Epc

/-- Two upper-case hexadecimal digits. -/
def toText (epc : Epc) : String := String.ofList (Text.Hex.fixed 2 epc.value.toNat)

/-- Reads exactly two hexadecimal digits. -/
def read? (text : List Char) : Option Epc :=
  (Text.Hex.readNumber? 2 text).map fun value => ⟨UInt8.ofNat value⟩

/-- Reads exactly two hexadecimal digits. -/
def ofText? (text : String) : Option Epc := read? text.toList

end Epc

/-! ## Property values -/

/-- Reads a property value: a non-empty, even number of hexadecimal digits. -/
def readEdt? : List Char → Option (List UInt8)
  | [] => none
  | text => Text.Hex.readBytes? text

/-- A property value in upper-case hexadecimal. -/
def edtText (edt : List UInt8) : String := String.ofList (Text.Hex.writeBytes edt)

/-! ## Object identifiers -/

/-- A device object: its class and its instance number. -/
structure Eoj where
  classCode : ClassCode
  instanceCode : UInt8
  deriving DecidableEq, Repr

namespace Eoj

/-- Class code, colon, instance number in decimal. -/
def toText (eoj : Eoj) : String :=
  eoj.classCode.toText ++ ":" ++ String.ofList (Text.Decimal.write eoj.instanceCode.toNat)

/-- Why a text is no object identifier. -/
inductive ReadError where
  | badClass (text : String)
  | badInstance (text : String)
  deriving DecidableEq, Repr

/-- The wording of a read error. -/
def ReadError.message : ReadError → String
  | .badClass text => "invalid class code '" ++ text ++ "'"
  | .badInstance text => "instance code must be between 1 and 255: '" ++ text ++ "'"

/-- Reads an instance number between 1 and 255. -/
def readInstance? (text : List Char) : Option UInt8 :=
  ((Text.Decimal.readUpTo? 255 text).filter (0 < ·)).map UInt8.ofNat

/-- Reads a class code, which may be followed by a colon and an instance number; without them it is
instance 1. -/
def read (text : List Char) : Except ReadError Eoj :=
  let head := text.takeWhile (· != ':')
  match ClassCode.read? head with
  | none => .error (.badClass (String.ofList head))
  | some classCode =>
    match text.drop head.length with
    | [] => .ok ⟨classCode, 1⟩
    | _ :: tail =>
      match readInstance? tail with
      | some instanceCode => .ok ⟨classCode, instanceCode⟩
      | none => .error (.badInstance (String.ofList tail))

/-- Reads an object identifier. -/
def ofText (text : String) : Except ReadError Eoj := read text.toList

end Eoj

end DeviceConsole.Device
