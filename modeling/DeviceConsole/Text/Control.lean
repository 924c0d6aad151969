import DeviceConsole.Text.Hex
import DeviceConsole.Text.Ranges

/-!
# `Text.Control` — control characters

A terminal acts on some control characters, so text of unknown origin that is shown among reports has them
written out: those of ASCII that steer a terminal by two hexadecimal digits, those beyond ASCII by their code point
in braces.

## Contents

* `isControl` — the class;
* `reveal`, `revealAll` — a character and a text with such characters written out.
-/

namespace DeviceConsole.Text

/-- Whether the character is a control character. -/
def isControl (c : Char) : Bool := inRanges [(0x0, 0x1F), (0x7F, 0x9F)] c.toNat

/-- A character, written out if a terminal acts on it: bell, backspace, form feed, escape, delete and the controls
beyond ASCII. -/
def reveal (c : Char) : List Char :=
  if c.toNat ∈ [0x07, 0x08, 0x0C, 0x1B, 0x7F] then
    ['\\', 'x', Hex.lowerDigitChar (c.toNat / 16), Hex.lowerDigitChar (c.toNat % 16)]
  else if 0x80 ≤ c.toNat ∧ c.toNat ≤ 0x9F then ['\\', 'u', '\x7b'] ++ Hex.minimal c.toNat ++ ['\x7d']
  else [c]

/-- A text in which no character is left that a terminal acts on. -/
def revealAll (text : String) : String := String.ofList (text.toList.flatMap reveal)

end DeviceConsole.Text
