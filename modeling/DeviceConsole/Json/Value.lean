import DeviceConsole.OrderedMap
import DeviceConsole.Text.Decimal
import DeviceConsole.Text.Hex

/-!
# `Json.Value` — JSON documents and their text

Members of an object are a list, so that a document keeps its order and repeated names; `Value.sorted` builds
an object from pairs with names in ascending order and the last value of a repeated name. A text may name half
a surrogate pair by an escape; such a text is no sequence of characters and is kept as `none`.

## Contents

* `Value` — documents;
* `writeString`, `Value.compact`, `Value.pretty` — their text on one line, and on many with an indent.
-/

namespace DeviceConsole.Json

/-- A JSON document. Numbers other than natural ones are told apart from these and not kept. -/
inductive Value where
  | null
  | bool (value : Bool)
  | natural (value : Nat)
  | otherNumber
  | text (value : Option String)
  | array (items : List Value)
  | object (members : List (Option String × Value))
  deriving Repr

namespace Value

/-- A text value. -/
def ofText (value : String) : Value := .text (some value)

/-- A text, or null. -/
def ofText? (value : Option String) : Value := (value.map ofText).getD .null

/-- An object with its members in the given order. -/
def record (members : List (String × Value)) : Value :=
  .object (members.map fun member => (some member.1, member.2))

/-- An object with ascending names; of a repeated name the last value stays. -/
def sorted (members : List (String × Value)) : Value :=
  record (members.foldl (fun entries member => insertEntry member.1 member.2 entries) [])

end Value

/-! ## Texts -/

/-- How a character is written between quotes. -/
def escape (c : Char) : List Char :=
  match c with
  | '"' => ['\\', '"']
  | '\\' => ['\\', '\\']
  | '\n' => ['\\', 'n']
  | '\r' => ['\\', 'r']
  | '\t' => ['\\', 't']
  | c =>
    if c.toNat = 8 then ['\\', 'b']
    else if c.toNat = 12 then ['\\', 'f']
    else if c.toNat < 32 then
      ['\\', 'u', '0', '0', Text.Hex.lowerDigitChar (c.toNat / 16), Text.Hex.lowerDigitChar (c.toNat % 16)]
    else [c]

/-- A text between quotes. -/
def writeString (text : String) : String :=
  String.ofList ('"' :: (text.toList.flatMap escape ++ ['"']))

/-- A text that may not be a sequence of characters; the empty text stands for one that is not. -/
def writeText (text : Option String) : String := writeString (text.getD "")

/-! ## Documents -/

/-- The text of a document that has no parts. -/
def writeAtom : Value → String
  | .bool true => "true"
  | .bool false => "false"
  | .natural value => String.ofList (Text.Decimal.write value)
  | .text value => writeText value
  | _ => "null"

mutual

/-- A document on one line, without blanks. -/
def Value.compact : Value → String
  | .array items => "[" ++ ",".intercalate (compactItems items) ++ "]"
  | .object members => "\x7b" ++ ",".intercalate (compactMembers members) ++ "\x7d"
  | atom => writeAtom atom

/-- The items of an array, each on one line. -/
def compactItems : List Value → List String
  | [] => []
  | item :: rest => item.compact :: compactItems rest

/-- The members of an object, each on one line. -/
def compactMembers : List (Option String × Value) → List String
  | [] => []
  | (name, value) :: rest => (writeText name ++ ":" ++ value.compact) :: compactMembers rest

end

/-- A blank margin of `width` columns. -/
def margin (width : Nat) : String := String.ofList (List.replicate width ' ')

/-- Parts on lines of their own, indented one step deeper than the brackets around them. -/
def bracketed (indent depth : Nat) (opening closing : String) (parts : List String) : String :=
  match parts with
  | [] => opening ++ closing
  | parts =>
    let inner := "\n" ++ margin (indent * (depth + 1))
    opening ++ inner ++ ("," ++ inner).intercalate parts ++ "\n" ++ margin (indent * depth) ++ closing

mutual

/-- A document with every part on a line of its own, `indent` columns deeper than what holds it. -/
def Value.prettyAt (indent depth : Nat) : Value → String
  | .array items => bracketed indent depth "[" "]" (prettyItems indent (depth + 1) items)
  | .object members =>
    bracketed indent depth "\x7b" "\x7d" (prettyMembers indent (depth + 1) members)
  | atom => writeAtom atom

/-- The items of an array. -/
def prettyItems (indent depth : Nat) : List Value → List String
  | [] => []
  | item :: rest => item.prettyAt indent depth :: prettyItems indent depth rest

/-- The members of an object. -/
def prettyMembers (indent depth : Nat) : List (Option String × Value) → List String
  | [] => []
  | (name, value) :: rest =>
    (writeText name ++ ": " ++ value.prettyAt indent depth) :: prettyMembers indent depth rest

end

/-- A document with every part on a line of its own. -/
def Value.pretty (indent : Nat) (value : Value) : String := value.prettyAt indent 0

end DeviceConsole.Json
