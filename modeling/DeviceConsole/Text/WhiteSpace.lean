import DeviceConsole.Text.Ranges

/-!
# `Text.WhiteSpace` — the Unicode property White_Space

Blank lines, alias names and group names are judged by this property; the separators of a command line are
the space and the tab alone (`Grammar.Token`).

## Contents

* `isWhiteSpace` — the property;
* `trim`, `isBlank` — text without white space at its ends, and text of nothing else.
-/

namespace DeviceConsole.Text

/-- Code points with the property White_Space. -/
def whiteSpaceRanges : List (Nat × Nat) :=
  [(0x9, 0xD), (0x20, 0x20), (0x85, 0x85), (0xA0, 0xA0), (0x1680, 0x1680), (0x2000, 0x200A),
   (0x2028, 0x2029), (0x202F, 0x202F), (0x205F, 0x205F), (0x3000, 0x3000)]

/-- Whether the character has the property White_Space. -/
def isWhiteSpace (c : Char) : Bool := inRanges whiteSpaceRanges c.toNat

/-- The text without white space at its ends. -/
def trim (text : String) : String :=
  let started := text.toList.dropWhile isWhiteSpace
  String.ofList (started.reverse.dropWhile isWhiteSpace).reverse

/-- Whether the text is nothing but white space. -/
def isBlank (text : String) : Bool := text.toList.all isWhiteSpace

end DeviceConsole.Text
