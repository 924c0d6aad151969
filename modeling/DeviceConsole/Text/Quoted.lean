import DeviceConsole.Text.Hex
import DeviceConsole.Text.Printable

/-!
# `Text.Quoted` — text in quotes with escapes

Quoted text stands between double quotes. A quote and a backslash take a backslash; line feed, carriage
return, tab and NUL have short escapes; every other character that cannot be shown on its own
(`Text.Printable`) is written as its code point in braces.

## Contents

* `escape` — one character;
* `quote` — a text.
-/

namespace DeviceConsole.Text.Quoted

/-- How a character is written between double quotes. -/
def escape (c : Char) : List Char :=
  match c with
  | '"' => ['\\', '"']
  | '\\' => ['\\', '\\']
  | '\n' => ['\\', 'n']
  | '\r' => ['\\', 'r']
  | '\t' => ['\\', 't']
  | c =>
    if c.toNat == 0 then ['\\', '0']
    else if isPlain c then [c]
    else ['\\', 'u', '\x7b'] ++ Hex.minimal c.toNat ++ ['\x7d']

/-- The text between double quotes, with escapes. -/
def quote (text : String) : String :=
  String.ofList ('"' :: (text.toList.flatMap escape ++ ['"']))

end DeviceConsole.Text.Quoted
