import DeviceConsole.Text.Decimal
import DeviceConsole.Text.Hex
import DeviceConsole.Toml.Value

/-!
# `Toml.Scalar` — values without quotes

Truth values, whole numbers in four bases, floats, and dates and times. Digits may be grouped by single
underscores between them.

## Contents

* `grouped?` — digits without their underscores;
* `readInteger?`, `Decimal`, `isFloat`, `isTime` — the forms;
* `scalar?` — the value of a word.
-/

namespace DeviceConsole.Toml

open Text.Decimal (digitValue? readDigits?)

/-! ## Numbers -/

/-- Whether the character is a decimal digit. -/
def isDigit (c : Char) : Bool := (digitValue? c).isSome

/-- The digits of a text whose underscores stand between digits. -/
def grouped? (digit : Char → Bool) : List Char → Option (List Char)
  | [] => none
  | [c] => if digit c then some [c] else none
  | c :: '_' :: rest => if digit c then (grouped? digit rest).map (c :: ·) else none
  | c :: rest => if digit c then (grouped? digit rest).map (c :: ·) else none

/-- The text without a sign, and whether the sign was a minus. -/
def splitSign : List Char → Bool × List Char
  | '+' :: rest => (false, rest)
  | '-' :: rest => (true, rest)
  | text => (false, text)

/-- The digits of a whole number without a leading zero. -/
def wholeDigits? (text : List Char) : Option (List Char) :=
  (grouped? isDigit text).filter fun digits => digits.length = 1 || digits.head? ≠ some '0'

/-- The value of digits in a base. -/
def valueInBase (base : Nat) (digits : List Char) : Nat :=
  digits.foldl (fun value c => value * base + (Text.Hex.digitValue? c).getD 0) 0

/-- A whole number in a base other than ten. -/
def readInBase? (base : Nat) (text : List Char) : Option Int :=
  (grouped? (fun c => (Text.Hex.digitValue? c).any fun digit => decide (digit < base)) text).map fun digits =>
    (valueInBase base digits : Int)

/-- A whole number. -/
def readInteger? (text : List Char) : Option Int :=
  match text with
  | '0' :: 'x' :: rest => readInBase? 16 rest
  | '0' :: 'o' :: rest => readInBase? 8 rest
  | '0' :: 'b' :: rest => readInBase? 2 rest
  | text =>
    let (negative, digits) := splitSign text
    (wholeDigits? digits).map fun digits =>
      let value : Int := valueInBase 10 digits
      if negative then -value else value

/-- Whether a whole number fits into 128 bits, with a sign or without one; others are refused. -/
def isKept (value : Int) : Bool :=
  decide (-0x80000000000000000000000000000000 ≤ value) && decide (value ≤ 0xFFFFFFFFFFFFFFFFFFFFFFFFFFFFFFFF)

/-! ## Floats -/

/-- A float as it is written, but for its sign: the digits of its whole part and of its fraction, and the exponent
of ten. -/
structure Decimal where
  whole : List Char
  fraction : List Char
  exponent : Int
  deriving DecidableEq, Repr

/-- An exponent with its letter. -/
def readExponent? : List Char → Option Int
  | c :: rest =>
    if c = 'e' ∨ c = 'E' then
      let (negative, digits) := splitSign rest
      (grouped? isDigit digits).map fun digits =>
        let value : Int := valueInBase 10 digits
        if negative then -value else value
    else none
  | [] => none

/-- A float without its sign: a whole number with a fraction, an exponent or both. -/
def Decimal.read? (text : List Char) : Option Decimal := do
  let word := text.takeWhile fun c => isDigit c || c = '_'
  let whole ← wholeDigits? word
  match text.drop word.length with
  | '.' :: rest =>
    let places := rest.takeWhile fun c => isDigit c || c = '_'
    let fraction ← grouped? isDigit places
    match rest.drop places.length with
    | [] => return ⟨whole, fraction, 0⟩
    | left => return ⟨whole, fraction, ← readExponent? left⟩
  | rest => return ⟨whole, [], ← readExponent? rest⟩

/-- The least number that rounds to no finite float of 64 bits: the largest such float has 53 binary digits, all of
them ones, and half a unit more is too much. It has 309 decimal digits. -/
def tooLarge : Nat := Nat.shiftLeft 0x3FFFFFFFFFFFFF 970

/-- Whether a float of 64 bits can hold the number. The digits from the first that is not zero are counted up to
the decimal point. -/
def Decimal.isFinite (number : Decimal) : Bool :=
  let digits := (number.whole ++ number.fraction).dropWhile (· = '0')
  let places : Int := digits.length - number.fraction.length + number.exponent
  digits.isEmpty || decide (places < 309) ||
    (places = 309 && decide (valueInBase 10 ((digits ++ List.replicate 309 '0').take 309) < tooLarge))

/-- Whether the text is a float: infinity, no number, or a number that is not too large. -/
def isFloat (text : List Char) : Bool :=
  let unsigned := (splitSign text).2
  unsigned = ['i', 'n', 'f'] || unsigned = ['n', 'a', 'n'] || (Decimal.read? unsigned).any Decimal.isFinite

/-! ## Dates and times -/

/-- A number of exactly `count` digits at the front, within bounds. -/
def readField? (count low high : Nat) (text : List Char) : Option (Nat × List Char) := do
  let value ← readDigits? (text.take count)
  if (text.take count).length = count ∧ low ≤ value ∧ value ≤ high then return (value, text.drop count)
  else none

/-- The text after a character at its front. -/
def after? (wanted : Char) : List Char → Option (List Char)
  | c :: rest => if c = wanted then some rest else none
  | [] => none

/-- The number of days of a month. -/
def daysIn (year month : Nat) : Nat :=
  if month = 2 then
    if year % 4 = 0 ∧ (year % 100 ≠ 0 ∨ year % 400 = 0) then 29 else 28
  else if month = 4 ∨ month = 6 ∨ month = 9 ∨ month = 11 then 30
  else 31

/-- The text after a date. -/
def afterDate? (text : List Char) : Option (List Char) := do
  let (year, rest) ← readField? 4 0 9999 text
  let (month, rest) ← readField? 2 1 12 (← after? '-' rest)
  let (_, rest) ← readField? 2 1 (daysIn year month) (← after? '-' rest)
  return rest

/-- The text after the decimals of a second, if it has any. -/
def afterDecimals? : List Char → Option (List Char)
  | '.' :: rest =>
    let digits := rest.takeWhile isDigit
    if digits.isEmpty then none else some (rest.drop digits.length)
  | text => some text

/-- The text after a time of day; seconds may be left out. -/
def afterClock? (text : List Char) : Option (List Char) := do
  let (_, rest) ← readField? 2 0 23 text
  let (_, rest) ← readField? 2 0 59 (← after? ':' rest)
  match rest with
  | ':' :: rest =>
    let (_, rest) ← readField? 2 0 60 rest
    afterDecimals? rest
  | rest => return rest

/-- Whether the text is an offset from universal time, or empty. -/
def isOffset : List Char → Bool
  | [] | ['Z'] | ['z'] => true
  | c :: rest =>
    (c = '+' || c = '-') &&
      ((do
        let (_, rest) ← readField? 2 0 23 rest
        let (_, rest) ← readField? 2 0 59 (← after? ':' rest)
        return rest).any List.isEmpty)

/-- Whether the text is a date, a time of day, or both with an offset or without. -/
def isTime (text : List Char) : Bool :=
  (afterClock? text).any List.isEmpty ||
    match afterDate? text with
    | none => false
    | some [] => true
    | some (c :: rest) =>
      (c = 'T' || c = 't' || c = ' ') && (afterClock? rest).any isOffset

/-! ## Words -/

/-- The value of a word without quotes. -/
def scalar? (word : List Char) : Option Value :=
  if word = ['t', 'r', 'u', 'e'] then some (.truth true)
  else if word = ['f', 'a', 'l', 's', 'e'] then some (.truth false)
  else match readInteger? word with
    | some value => if isKept value then some (.integer value) else none
    | none =>
      if isFloat word then some .float
      else if isTime word then some .time
      else none

end DeviceConsole.Toml
