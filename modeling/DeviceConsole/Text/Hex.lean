/-!
# `Text.Hex` — hexadecimal digits, numbers and byte strings

Codes of the domain are written in hexadecimal: read in either case, written in upper case, and with a fixed
number of digits. Byte strings are two digits a byte.

## Contents

* `digitValue?`, `digitChar`, `lowerDigitChar` — one digit;
* `readNumber?`, `fixed` — numbers with a fixed number of digits;
* `minimal` — a number in lower case without leading zeros;
* `readBytes?`, `writeBytes` — byte strings.
-/

namespace DeviceConsole.Text.Hex

/-! ## Digits -/

/-- The value of a hexadecimal digit in either case. -/
def digitValue? (c : Char) : Option Nat :=
  if '0' ≤ c ∧ c ≤ '9' then some (c.toNat - 48)
  else if 'A' ≤ c ∧ c ≤ 'F' then some (c.toNat - 55)
  else if 'a' ≤ c ∧ c ≤ 'f' then some (c.toNat - 87)
  else none

/-- The upper-case digit of a value below 16. -/
def digitChar (value : Nat) : Char :=
  if value < 10 then Char.ofNat (48 + value) else Char.ofNat (55 + value)

/-- The lower-case digit of a value below 16. -/
def lowerDigitChar (value : Nat) : Char :=
  if value < 10 then Char.ofNat (48 + value) else Char.ofNat (87 + value)

/-! ## Numbers -/

/-- The number written by the digits, most significant first; `none` if a character is no digit. -/
def readDigits? (digits : List Char) : Option Nat :=
  digits.foldl (fun value? c => do return (← value?) * 16 + (← digitValue? c)) (some 0)

/-- Reads a number of exactly `count` digits. -/
def readNumber? (count : Nat) (text : List Char) : Option Nat :=
  if text.length = count then readDigits? text else none

/-- The last `count` upper-case digits of a number. -/
def fixed : Nat → Nat → List Char
  | 0, _ => []
  | count + 1, value => fixed count (value / 16) ++ [digitChar (value % 16)]

/-- A number in lower case without leading zeros; zero is one digit. -/
def minimal (value : Nat) : List Char :=
  if value < 16 then [lowerDigitChar value]
  else minimal (value / 16) ++ [lowerDigitChar (value % 16)]
termination_by value

/-! ## Bytes -/

/-- Reads two digits a byte; `none` for an odd length or a character that is no digit. -/
def readBytes? : List Char → Option (List UInt8)
  | [] => some []
  | [_] => none
  | high :: low :: rest => do
    let byte := (← digitValue? high) * 16 + (← digitValue? low)
    return UInt8.ofNat byte :: (← readBytes? rest)

/-- Writes two upper-case digits a byte. -/
def writeBytes : List UInt8 → List Char
  | [] => []
  | byte :: rest => digitChar (byte.toNat / 16) :: digitChar (byte.toNat % 16) :: writeBytes rest

end DeviceConsole.Text.Hex
