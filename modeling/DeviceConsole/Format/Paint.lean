/-!
# `Format.Paint` — colours on a terminal

Text is coloured by an escape sequence before it and one after it that ends the colour.

## Contents

* `Paint` — whether text is coloured at all;
* `Paint.success`, `Paint.error`, `Paint.dim`, `Paint.heading`, `Paint.hint` — the uses of colour.
-/

namespace DeviceConsole.Format

/-- The escape sequence with a parameter. -/
def escape (parameter : String) : String := "\x1b[" ++ parameter ++ "m"

/-- Ends all colours. -/
def plain : String := escape "0"

/-- Whether text is coloured. -/
structure Paint where
  enabled : Bool
  deriving DecidableEq, Repr

namespace Paint

/-- Text between two escape sequences. -/
def wrap (paint : Paint) (opening closing text : String) : String :=
  if paint.enabled then opening ++ text ++ closing else text

/-- A line about success, in green. -/
def success (paint : Paint) (text : String) : String := paint.wrap (escape "32") plain text

/-- A line about an error, in red, which says so. -/
def error (paint : Paint) (text : String) : String := paint.wrap (escape "31") plain ("Error: " ++ text)

/-- A line of little importance. -/
def dim (paint : Paint) (text : String) : String := paint.wrap (escape "2") plain text

/-- A line in the header of a table, in bold cyan; the colour and the weight end one after the other. -/
def heading (paint : Paint) (text : String) : String :=
  paint.wrap (escape "36" ++ escape "1") (escape "39" ++ escape "22") text

/-- A hint behind what is typed, in dark grey italics. -/
def hint (paint : Paint) (text : String) : String := paint.wrap (escape "3;90") plain text

end Paint

end DeviceConsole.Format
