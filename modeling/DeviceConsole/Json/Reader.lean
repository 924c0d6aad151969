import DeviceConsole.Json.Value

/-!
# `Json.Reader` — reading JSON text

A reader takes a document from the front of a text and gives what is left. Blanks are space, tab, line feed and
carriage return. Documents nest as deep as the text allows: each level of brackets takes a character, so the
length of the text bounds the recursion.

## Contents

* `readString?`, `readNumber?` — texts and numbers;
* `readValue?` — a document at the front of a text;
* `Value.ofJson?` — a whole text as a document.
-/

namespace DeviceConsole.Json

/-- The text without leading blanks. -/
def skipBlanks (text : List Char) : List Char :=
  text.dropWhile fun c => c == ' ' || c == '\t' || c == '\n' || c == '\r'

/-! ## Texts -/

/-- A piece of a text: a character, or half of a surrogate pair. -/
inductive Unit16 where
  | char (c : Char)
  | half (code : Nat)

/-- The four digits of a code unit. -/
def readUnit? : List Char → Option (Nat × List Char)
  | a :: b :: c :: d :: rest => (Text.Hex.readNumber? 4 [a, b, c, d]).map (·, rest)
  | _ => none

/-- The code unit as a character, if it is no half of a pair. -/
def ofUnit (code : Nat) : Unit16 :=
  if 0xD800 ≤ code ∧ code ≤ 0xDFFF then .half code else .char (Char.ofNat code)

/-- What an escape stands for, given the text after the backslash. -/
def readEscape? : List Char → Option (Unit16 × List Char)
  | '"' :: rest => some (.char '"', rest)
  | '\\' :: rest => some (.char '\\', rest)
  | '/' :: rest => some (.char '/', rest)
  | 'b' :: rest => some (.char (Char.ofNat 8), rest)
  | 'f' :: rest => some (.char (Char.ofNat 12), rest)
  | 'n' :: rest => some (.char '\n', rest)
  | 'r' :: rest => some (.char '\r', rest)
  | 't' :: rest => some (.char '\t', rest)
  | 'u' :: rest => (readUnit? rest).map fun (code, rest) => (ofUnit code, rest)
  | _ => none

/-- The pieces of a text up to the closing quote, and what follows it; control characters have to be
escaped. -/
def readPieces? (fuel : Nat) (text : List Char) : Option (List Unit16 × List Char) :=
  match fuel, text with
  | _, '"' :: rest => some ([], rest)
  | fuel + 1, '\\' :: rest => do
    let (piece, rest) ← readEscape? rest
    let (pieces, rest) ← readPieces? fuel rest
    return (piece :: pieces, rest)
  | fuel + 1, c :: rest =>
    if c.toNat < 32 then none
    else (readPieces? fuel rest).map fun (pieces, rest) => (.char c :: pieces, rest)
  | _, _ => none

/-- Joins the halves of surrogate pairs; `none` if a half stands alone. -/
def joinPieces? : List Unit16 → Option (List Char)
  | [] => some []
  | .char c :: rest => (joinPieces? rest).map (c :: ·)
  | .half high :: .half low :: rest =>
    if high < 0xDC00 ∧ 0xDC00 ≤ low then
      (joinPieces? rest).map (Char.ofNat (0x10000 + (high - 0xD800) * 0x400 + (low - 0xDC00)) :: ·)
    else none
  | .half _ :: _ => none

/-- Reads a text after its opening quote. -/
def readString? (text : List Char) : Option (Option String × List Char) :=
  (readPieces? text.length text).map fun (pieces, rest) =>
    ((joinPieces? pieces).map String.ofList, rest)

/-! ## Numbers -/

/-- The decimal digits at the front of a text, and what follows them. -/
def spanDigits (text : List Char) : List Char × List Char :=
  text.span fun c => (Text.Decimal.digitValue? c).isSome

/-- The text after an optional fraction; the flag says whether there was one. -/
def skipFraction? : List Char → Option (Bool × List Char)
  | '.' :: rest =>
    match spanDigits rest with
    | ([], _) => none
    | (_, rest) => some (true, rest)
  | text => some (false, text)

/-- The text after an optional exponent; the flag says whether there was one. -/
def skipExponent? (text : List Char) : Option (Bool × List Char) :=
  let afterSign : List Char → List Char
    | '+' :: rest => rest
    | '-' :: rest => rest
    | rest => rest
  match text with
  | c :: rest =>
    if c == 'e' || c == 'E' then
      match spanDigits (afterSign rest) with
      | ([], _) => none
      | (_, rest) => some (true, rest)
    else some (false, text)
  | [] => some (false, [])

/-- Reads a number without a sign: digits without a leading zero, a fraction and an exponent. -/
def readUnsigned? (text : List Char) : Option (Value × List Char) := do
  let (digits, rest) := spanDigits text
  if digits.isEmpty || digits.head? == some '0' && digits.length != 1 then none
  else
    let (fraction, rest) ← skipFraction? rest
    let (exponent, rest) ← skipExponent? rest
    if fraction || exponent then return (.otherNumber, rest)
    else return (.natural (← Text.Decimal.readDigits? digits), rest)

/-- Reads a number. -/
def readNumber? : List Char → Option (Value × List Char)
  | '-' :: rest => (readUnsigned? rest).map fun (_, rest) => (.otherNumber, rest)
  | text => readUnsigned? text

/-! ## Documents -/

/-- The text after a word it starts with. -/
def afterWord? (word : String) (text : List Char) : Option (List Char) :=
  if word.toList.isPrefixOf text then some (text.drop word.toList.length) else none

mutual

/-- Reads a document at the front of a text. -/
def readValue? (fuel : Nat) (text : List Char) : Option (Value × List Char) :=
  match fuel with
  | 0 => none
  | fuel + 1 =>
    match skipBlanks text with
    | '"' :: rest => (readString? rest).map fun (value, rest) => (.text value, rest)
    | '[' :: rest =>
      match skipBlanks rest with
      | ']' :: rest => some (.array [], rest)
      | rest => (readItems? fuel rest).map fun (items, rest) => (.array items, rest)
    | '\x7b' :: rest =>
      match skipBlanks rest with
      | '\x7d' :: rest => some (.object [], rest)
      | rest => (readMembers? fuel rest).map fun (members, rest) => (.object members, rest)
    | 't' :: rest => (afterWord? "rue" rest).map (.bool true, ·)
    | 'f' :: rest => (afterWord? "alse" rest).map (.bool false, ·)
    | 'n' :: rest => (afterWord? "ull" rest).map (.null, ·)
    | text => readNumber? text

/-- Reads the items of an array up to its closing bracket. -/
def readItems? (fuel : Nat) (text : List Char) : Option (List Value × List Char) :=
  match fuel with
  | 0 => none
  | fuel + 1 => do
    let (item, rest) ← readValue? fuel text
    match skipBlanks rest with
    | ']' :: rest => return ([item], rest)
    | ',' :: rest => do
      let (items, rest) ← readItems? fuel rest
      return (item :: items, rest)
    | _ => none

/-- Reads the members of an object up to its closing brace. -/
def readMembers? (fuel : Nat) (text : List Char) :
    Option (List (Option String × Value) × List Char) :=
  match fuel with
  | 0 => none
  | fuel + 1 =>
    match skipBlanks text with
    | '"' :: rest => do
      let (name, rest) ← readString? rest
      match skipBlanks rest with
      | ':' :: rest => do
        let (value, rest) ← readValue? fuel rest
        match skipBlanks rest with
        | '\x7d' :: rest => return ([(name, value)], rest)
        | ',' :: rest => do
          let (members, rest) ← readMembers? fuel rest
          return ((name, value) :: members, rest)
        | _ => none
      | _ => none
    | _ => none

end

/-- Reads a whole text as a document. -/
def Value.ofJson? (text : String) : Option Value :=
  match readValue? (2 * text.length + 2) text.toList with
  | some (value, rest) => if (skipBlanks rest).isEmpty then some value else none
  | none => none

end DeviceConsole.Json
