import DeviceConsole.Toml.Quoted
import DeviceConsole.Toml.Scalar
import DeviceConsole.Toml.Tables

/-!
# `Toml.Reader` — reading a TOML document

A document is a sequence of lines: definitions, headers and comments. Arrays and tables inside a line may go on
over further lines. Values nest at most 80 deep, and a name has at most 80 parts. Every step takes a character, so
the length of the text bounds the recursion.

## Contents

* `skipSpace` — blanks, line breaks and comments;
* `readName?`, `readValue?` — dotted names and values;
* `readLine?` — one line;
* `read?` — a whole document.
-/

namespace DeviceConsole.Toml

/-! ## Blanks and comments -/

/-- The text without leading blanks. -/
def skipBlanks (text : List Char) : List Char := text.dropWhile isBlank

/-- The text after a comment, which ends before a line break. -/
def afterComment (text : List Char) : List Char := text.dropWhile isTextChar

/-- The text after blanks, line breaks and comments. -/
def skipSpace (fuel : Nat) (text : List Char) : List Char :=
  match fuel, skipBlanks text with
  | fuel + 1, '#' :: rest => skipSpace fuel (afterComment rest)
  | fuel + 1, c :: rest =>
    match afterBreak? (c :: rest) with
    | some rest => skipSpace fuel rest
    | none => c :: rest
  | _, text => text

/-- The text after the end of a line, before which blanks and a comment may stand. -/
def afterLine? (text : List Char) : Option (List Char) :=
  let rest := match skipBlanks text with
    | '#' :: rest => afterComment rest
    | rest => rest
  if rest.isEmpty then some [] else afterBreak? rest

/-! ## Names -/

/-- Whether the character can stand in a name without quotes. -/
def isNameChar (c : Char) : Bool := c.isAlphanum || c = '_' || c = '-'

/-- One part of a name. -/
def readPart? (text : List Char) : Option (String × List Char) :=
  let bare := text.takeWhile isNameChar
  if bare.isEmpty then (readQuotedLine? text).map fun (part, rest) => (String.ofList part, rest)
  else some (String.ofList bare, text.drop bare.length)

/-- How deep values nest, and how many parts a name may have. -/
def deepest : Nat := 80

/-- A dotted name of at most `parts` parts, with blanks around them. -/
def readParts? (parts : Nat) (text : List Char) : Option (List String × List Char) :=
  match parts with
  | 0 => none
  | parts + 1 => do
    let (part, rest) ← readPart? (skipBlanks text)
    match skipBlanks rest with
    | '.' :: rest => do
      let (others, rest) ← readParts? parts rest
      return (part :: others, rest)
    | rest => return ([part], rest)

/-- A dotted name. -/
def readName? (text : List Char) : Option (List String × List Char) := readParts? deepest text

/-! ## Values -/

/-- Whether the character can stand in a value without quotes. -/
def isWordChar (c : Char) : Bool := isNameChar c || c = '+' || c = '.' || c = ':'

/-- A value without quotes; a blank may stand between a date and a time. -/
def readWord? (text : List Char) : Option (Value × List Char) :=
  let word := text.takeWhile isWordChar
  let rest := text.drop word.length
  let clock : List Char :=
    match rest with
    | ' ' :: c :: later =>
      if isDigit c ∧ afterDate? word = some [] then ' ' :: (c :: later).takeWhile isWordChar else []
    | _ => []
  (scalar? (word ++ clock)).map fun value => (value, rest.drop clock.length)

mutual

/-- A value at the front of a text, nested at most `depth` deep. -/
def readValue? (fuel depth : Nat) (text : List Char) : Option (Value × List Char) :=
  match fuel, depth, text with
  | fuel + 1, depth + 1, '[' :: rest =>
    (readItems? fuel depth rest).map fun (items, rest) => (.array items, rest)
  | fuel + 1, depth + 1, '\x7b' :: rest =>
    (readMembers? fuel depth [] rest).map fun (members, rest) => (.table (membersValue members), rest)
  | _, _, '[' :: _ => none
  | _, _, '\x7b' :: _ => none
  | _, _, '"' :: rest => (readQuoted? ('"' :: rest)).map fun (text, rest) => (.text (String.ofList text), rest)
  | _, _, '\'' :: rest =>
    (readQuoted? ('\'' :: rest)).map fun (text, rest) => (.text (String.ofList text), rest)
  | _, _, text => readWord? text

/-- The items of an array up to its closing bracket; a comma may follow the last one. -/
def readItems? (fuel depth : Nat) (text : List Char) : Option (List Value × List Char) :=
  match fuel with
  | 0 => none
  | fuel + 1 =>
    match skipSpace text.length text with
    | ']' :: rest => some ([], rest)
    | text => do
      let (item, rest) ← readValue? fuel depth text
      match skipSpace rest.length rest with
      | ']' :: rest => return ([item], rest)
      | ',' :: rest => do
        let (items, rest) ← readItems? fuel depth rest
        return (item :: items, rest)
      | _ => none

/-- The members of a table up to its closing brace, after those read before; a comma may follow the last one. -/
def readMembers? (fuel depth : Nat) (members : Members) (text : List Char) :
    Option (Members × List Char) :=
  match fuel with
  | 0 => none
  | fuel + 1 =>
    match skipSpace text.length text with
    | '\x7d' :: rest => some (members, rest)
    | text => do
      let (name, rest) ← readName? text
      let rest ← after? '=' (skipSpace rest.length rest)
      let (value, rest) ← readValue? fuel depth (skipSpace rest.length rest)
      let members ← define? value name members
      match skipSpace rest.length rest with
      | '\x7d' :: rest => return (members, rest)
      | ',' :: rest => readMembers? fuel depth members rest
      | _ => none

end

/-! ## Lines -/

/-- A document up to a line: its tables, and the header above the line. -/
structure Draft where
  root : Members := []
  header : List String := []

/-- A line with a definition. -/
def readDefinition? (draft : Draft) (text : List Char) : Option (Draft × List Char) := do
  let (name, rest) ← readName? text
  let rest ← after? '=' rest
  let (value, rest) ← readValue? (2 * rest.length + 2) deepest (skipBlanks rest)
  let root ← within? (define? value name) draft.header draft.root
  return ({ draft with root }, rest)

/-- A line with a header. -/
def readHeader? (draft : Draft) : List Char → Option (Draft × List Char)
  | '[' :: '[' :: rest => do
    let (path, rest) ← readName? rest
    let rest ← after? ']' (← after? ']' rest)
    return (⟨← openNext? path draft.root, path⟩, rest)
  | '[' :: rest => do
    let (path, rest) ← readName? rest
    return (⟨← open? path draft.root, path⟩, ← after? ']' rest)
  | _ => none

/-- A line at the front of a text, and what follows it. -/
def readLine? (draft : Draft) (text : List Char) : Option (Draft × List Char) := do
  let text := skipBlanks text
  let (next, rest) ←
    match text with
    | [] | '#' :: _ | '\n' :: _ | '\r' :: _ => some (draft, text)
    | '[' :: _ => readHeader? draft text
    | _ => readDefinition? draft text
  return (next, ← afterLine? rest)

/-- The lines of a text. -/
def readLines? (fuel : Nat) (draft : Draft) (text : List Char) : Option Draft :=
  match fuel, text with
  | _, [] => some draft
  | 0, _ :: _ => none
  | fuel + 1, c :: text => do
    let (next, rest) ← readLine? draft (c :: text)
    readLines? fuel next rest

/-- The text without a byte order mark. -/
def dropMark : List Char → List Char
  | c :: rest => if c.toNat = 0xFEFF then rest else c :: rest
  | [] => []

/-- A whole document. -/
def read? (text : String) : Option Value :=
  let text := dropMark text.toList
  (readLines? text.length {} text).map fun draft => .table (membersValue draft.root)

end DeviceConsole.Toml
