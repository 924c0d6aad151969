import DeviceConsole.Text.Hex

/-!
# `Toml.Quoted` — texts between quotes

A text stands between double quotes, in which escapes count, or between single quotes, in which nothing does.
Three quotes in a row open a text that may have line breaks; a line break right after them does not count.

## Contents

* `Traits`, `Traits.of`, `write` — the written form of a text: of those without escapes the simplest, else the
  one with escapes;
* `readBasic?`, `readLiteral?`, `readMultiBasic?`, `readMultiLiteral?` — the texts behind their opening quotes;
* `readQuoted?` — any of them.
-/

namespace DeviceConsole.Toml

/-! ## Writing -/

/-- What decides how a text can be written. -/
structure Traits where
  backslash : Bool
  lineBreak : Bool
  control : Bool
  singleQuotes : Nat
  doubleQuotes : Nat
  deriving DecidableEq, Repr

/-- The longest run of a character in a text, of which `run` precede it and `longest` is the best so far. -/
def longestRun (wanted : Char) (run longest : Nat) : List Char → Nat
  | [] => longest
  | c :: rest =>
    if c = wanted then longestRun wanted (run + 1) (max longest (run + 1)) rest
    else longestRun wanted 0 longest rest

/-- Whether the character is a control character that only an escape can write: not a tab, not a line feed. -/
def needsEscape (c : Char) : Bool :=
  (c.toNat < 0x20 && c != '\t' && c != '\n') || c.toNat = 0x7F

/-- The traits of a text. -/
def Traits.of (text : List Char) : Traits where
  backslash := text.contains '\\'
  lineBreak := text.contains '\n'
  control := text.any needsEscape
  singleQuotes := longestRun '\'' 0 0 text
  doubleQuotes := longestRun '"' 0 0 text

/-- A code in upper-case hexadecimal with four digits. -/
def writeCode (c : Char) : List Char := '\\' :: 'u' :: Text.Hex.fixed 4 c.toNat

/-- How a character is written between double quotes. `quotes` double quotes stand right before it, of which
`allowed` may stand in a row. -/
def writeChar (multiline : Bool) (allowed quotes : Nat) (c : Char) : List Char :=
  match c with
  | '"' => if quotes < allowed then ['"'] else ['\\', '"']
  | '\\' => ['\\', '\\']
  | '\t' => ['\\', 't']
  | '\n' => if multiline then ['\n'] else ['\\', 'n']
  | '\r' => ['\\', 'r']
  | c =>
    if c.toNat = 8 then ['\\', 'b']
    else if c.toNat = 12 then ['\\', 'f']
    else if needsEscape c then writeCode c
    else [c]

/-- A text between double quotes. -/
def writeEscaped (multiline : Bool) (allowed quotes : Nat) : List Char → List Char
  | [] => []
  | c :: rest =>
    let next := if c = '"' ∧ quotes < allowed then quotes + 1 else 0
    writeChar multiline allowed quotes c ++ writeEscaped multiline allowed next rest

/-- Three quotes, and a line break if the text has one. -/
def openMultiline (quote : Char) (traits : Traits) : List Char :=
  [quote, quote, quote] ++ if traits.lineBreak then ['\n'] else []

/-- The written form of a text. -/
def write (text : String) : String :=
  let chars := text.toList
  let traits := Traits.of chars
  let basic := ['"'] ++ writeEscaped false 0 0 chars ++ ['"']
  let literal := ['\''] ++ chars ++ ['\'']
  let multiBasic := openMultiline '"' traits ++ writeEscaped true 2 0 chars ++ ['"', '"', '"']
  let multiLiteral := openMultiline '\'' traits ++ chars ++ ['\'', '\'', '\'']
  String.ofList <|
    if !traits.control && !traits.backslash && traits.doubleQuotes = 0 && !traits.lineBreak then basic
    else if !traits.control && traits.singleQuotes = 0 && !traits.lineBreak then literal
    else if !traits.control && !traits.backslash && decide (traits.doubleQuotes ≤ 2) then multiBasic
    else if !traits.control && decide (traits.singleQuotes ≤ 2) then multiLiteral
    else if traits.lineBreak then multiBasic
    else basic

/-! ## Reading -/

/-- Whether the character can stand in a text or a comment: a tab, or no control character. -/
def isTextChar (c : Char) : Bool := c = '\t' || (0x20 ≤ c.toNat && c.toNat ≠ 0x7F)

/-- Whether the character is a blank inside a line. -/
def isBlank (c : Char) : Bool := c = ' ' || c = '\t'

/-- The text after a line break. -/
def afterBreak? : List Char → Option (List Char)
  | '\n' :: rest => some rest
  | '\r' :: '\n' :: rest => some rest
  | _ => none

/-- The character of a code of `count` hexadecimal digits at the front of a text, if it is one. -/
def readCode? (count : Nat) (text : List Char) : Option (Char × List Char) := do
  let code ← Text.Hex.readNumber? count (text.take count)
  if code < 0xD800 ∨ (0xE000 ≤ code ∧ code ≤ 0x10FFFF) then return (Char.ofNat code, text.drop count)
  else none

/-- What an escape stands for, given the text after the backslash. -/
def readEscape? : List Char → Option (Char × List Char)
  | 'b' :: rest => some (Char.ofNat 8, rest)
  | 't' :: rest => some ('\t', rest)
  | 'n' :: rest => some ('\n', rest)
  | 'f' :: rest => some (Char.ofNat 12, rest)
  | 'r' :: rest => some ('\r', rest)
  | 'e' :: rest => some (Char.ofNat 27, rest)
  | '"' :: rest => some ('"', rest)
  | '\\' :: rest => some ('\\', rest)
  | 'x' :: rest => readCode? 2 rest
  | 'u' :: rest => readCode? 4 rest
  | 'U' :: rest => readCode? 8 rest
  | _ => none

/-- Puts a character in front of what was read. -/
def consRead (c : Char) (read : Option (List Char × List Char)) : Option (List Char × List Char) :=
  read.map fun (text, rest) => (c :: text, rest)

/-- A text on one line with escapes, up to its closing quote. -/
def readBasic? (fuel : Nat) (text : List Char) : Option (List Char × List Char) :=
  match fuel, text with
  | _, '"' :: rest => some ([], rest)
  | fuel + 1, '\\' :: rest => do
    let (c, rest) ← readEscape? rest
    consRead c (readBasic? fuel rest)
  | fuel + 1, c :: rest => if isTextChar c then consRead c (readBasic? fuel rest) else none
  | _, _ => none

/-- A text on one line without escapes, up to its closing quote. -/
def readLiteral? : List Char → Option (List Char × List Char)
  | [] => none
  | c :: rest =>
    if c = '\'' then some ([], rest)
    else if isTextChar c then consRead c (readLiteral? rest)
    else none

/-- Up to two quotes before the closing three belong to the text. -/
def closingQuotes (quote : Char) (text : List Char) : List Char × List Char :=
  let extra := (text.takeWhile (· = quote)).length
  (List.replicate (min extra 2) quote, text.drop (min extra 2))

/-- The text after a backslash that ends a line, without the white space that follows it. -/
def afterLineEnd? (text : List Char) : Option (List Char) :=
  (afterBreak? (text.dropWhile isBlank)).map fun rest =>
    rest.dropWhile fun c => isBlank c || c = '\n' || c = '\r'

/-- A text on several lines with escapes, up to its closing quotes. -/
def readMultiBasic? (fuel : Nat) (text : List Char) : Option (List Char × List Char) :=
  match fuel, text with
  | _, '"' :: '"' :: '"' :: rest => some (closingQuotes '"' rest)
  | fuel + 1, '\\' :: rest =>
    match afterLineEnd? rest with
    | some rest => readMultiBasic? fuel rest
    | none => do
      let (c, rest) ← readEscape? rest
      consRead c (readMultiBasic? fuel rest)
  | fuel + 1, '\r' :: '\n' :: rest => consRead '\r' (consRead '\n' (readMultiBasic? fuel rest))
  | fuel + 1, c :: rest =>
    if isTextChar c || c = '\n' then consRead c (readMultiBasic? fuel rest) else none
  | _, _ => none

/-- A text on several lines without escapes, up to its closing quotes. -/
def readMultiLiteral? : List Char → Option (List Char × List Char)
  | '\'' :: '\'' :: '\'' :: rest => some (closingQuotes '\'' rest)
  | '\r' :: '\n' :: rest => consRead '\r' (consRead '\n' (readMultiLiteral? rest))
  | c :: rest =>
    if isTextChar c || c = '\n' then consRead c (readMultiLiteral? rest) else none
  | [] => none

/-- The text without a line break at its front. -/
def dropBreak (text : List Char) : List Char := (afterBreak? text).getD text

/-- A text on one line behind its opening quote, which is at the front. -/
def readQuotedLine? : List Char → Option (List Char × List Char)
  | '"' :: rest => readBasic? rest.length rest
  | '\'' :: rest => readLiteral? rest
  | _ => none

/-- A text between quotes of any kind at the front. -/
def readQuoted? : List Char → Option (List Char × List Char)
  | '"' :: '"' :: '"' :: rest => readMultiBasic? rest.length (dropBreak rest)
  | '\'' :: '\'' :: '\'' :: rest => readMultiLiteral? (dropBreak rest)
  | text => readQuotedLine? text

end DeviceConsole.Toml
