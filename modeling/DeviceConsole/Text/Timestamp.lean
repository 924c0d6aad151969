import DeviceConsole.Text.Decimal

/-!
# `Text.Timestamp` — instants in the form of RFC 3339

An instant is a number of nanoseconds since the beginning of 1970, in universal time. Seconds have no decimals,
or 3, 6 or 9 of them, as few as hold the instant.

## Contents

* `Date`, `dateOfDay` — the Gregorian date of a day;
* `fraction` — the decimals of a second;
* `write` — the instant as text.
-/

namespace DeviceConsole.Text.Timestamp

/-! ## Dates -/

/-- A Gregorian date. -/
structure Date where
  year : Int
  month : Nat
  day : Nat
  deriving DecidableEq, Repr

/-- The date of a day counted from 1970-01-01. Days are counted from the first of March, so that a leap day ends
its year; 146097 days make 400 years, 36524 a century and 1461 four years, the last of which may be a day
longer. -/
def dateOfDay (day : Int) : Date :=
  let shifted := day + 719468
  let era := shifted / 146097
  let dayOfEra := (shifted % 146097).toNat
  let yearOfEra := (dayOfEra - dayOfEra / 1460 + dayOfEra / 36524 - dayOfEra / 146096) / 365
  let dayOfYear := dayOfEra - (365 * yearOfEra + yearOfEra / 4 - yearOfEra / 100)
  let monthFromMarch := (5 * dayOfYear + 2) / 153
  let month := if monthFromMarch < 10 then monthFromMarch + 3 else monthFromMarch - 9
  let year := era * 400 + yearOfEra
  { year := if month ≤ 2 then year + 1 else year
    month := month
    day := dayOfYear - (153 * monthFromMarch + 2) / 5 + 1 }

/-! ## Text -/

/-- The decimals of a second. -/
def fraction (nanoseconds : Nat) : List Char :=
  if nanoseconds = 0 then []
  else if nanoseconds % 1000000 = 0 then '.' :: Decimal.fixed 3 (nanoseconds / 1000000)
  else if nanoseconds % 1000 = 0 then '.' :: Decimal.fixed 6 (nanoseconds / 1000)
  else '.' :: Decimal.fixed 9 nanoseconds

/-- A year of four digits; a longer or negative one has its sign. -/
def writeYear (year : Int) : List Char :=
  if 0 ≤ year ∧ year ≤ 9999 then Decimal.fixed 4 year.toNat
  else (if year < 0 then '-' else '+') :: Decimal.fixed (max 4 (Decimal.write year.natAbs).length) year.natAbs

/-- The instant as text. -/
def write (nanoseconds : Int) : String :=
  let seconds := nanoseconds / 1000000000
  let date := dateOfDay (seconds / 86400)
  let secondOfDay := (seconds % 86400).toNat
  String.ofList
    (writeYear date.year ++ '-' :: Decimal.fixed 2 date.month ++ '-' :: Decimal.fixed 2 date.day ++
      'T' :: Decimal.fixed 2 (secondOfDay / 3600) ++ ':' :: Decimal.fixed 2 (secondOfDay / 60 % 60) ++
      ':' :: Decimal.fixed 2 (secondOfDay % 60) ++ fraction (nanoseconds % 1000000000).toNat ++
      ['+', '0', '0', ':', '0', '0'])

end DeviceConsole.Text.Timestamp
