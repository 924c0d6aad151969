/-!
# `Text.Decimal` — decimal numbers

Numbers are written without leading zeros. How they are read depends on the place, so a reader here takes the
digits alone and the places add their own rules (a sign, a limit, a number of digits).

## Contents

* `digitValue?` — one digit;
* `readDigits?` — a non-empty run of digits;
* `readUpTo?` — an optional plus sign and digits, with a limit;
* `write` — a number in decimal.
-/

namespace DeviceConsole.Text.Decimal

/-- The value of a decimal digit. -/
def digitValue? (c : Char) : Option Nat :=
  if '0' ≤ c ∧ c ≤ '9' then some (c.toNat - 48) else none

/-- The number written by the digits, most significant first, continuing from `start`. -/
def readFrom? (start : Nat) : List Char → Option Nat
  | [] => some start
  | c :: rest => (digitValue? c).bind fun digit => readFrom? (start * 10 + digit) rest

/-- The number written by a non-empty run of digits; leading zeros are allowed. -/
def readDigits? : List Char → Option Nat
  | [] => none
  | digits => readFrom? 0 digits

/-- A number of at most `limit`, with an optional plus sign and any number of leading zeros. -/
def readUpTo? (limit : Nat) (text : List Char) : Option Nat :=
  let digits := match text with
    | '+' :: rest => rest
    | _ => text
  (readDigits? digits).filter (· ≤ limit)

/-- The digit of a value below ten. -/
def digitChar (value : Nat) : Char := Char.ofNat (48 + value)

/-- A number in decimal without leading zeros; zero is one digit. -/
def write (value : Nat) : List Char :=
  if value < 10 then [digitChar value] else write (value / 10) ++ [digitChar (value % 10)]
termination_by value

/-- The last `count` digits of a number, with leading zeros. -/
def fixed : Nat → Nat → List Char
  | 0, _ => []
  | count + 1, value => fixed count (value / 10) ++ [digitChar (value % 10)]

end DeviceConsole.Text.Decimal
