/-!
# `Editor.Prompt` — what stands before the line being typed

## Contents

* `Prompt` — the chosen text and whether debug mode is on;
* `Prompt.left` — the text before a line;
* `rightText`, `indicator`, `continuation`, `searchText` — the other texts of the editor.
-/

namespace DeviceConsole.Editor

/-- The chosen text and whether debug mode is on. -/
structure Prompt where
  text : String
  debug : Bool
  deriving DecidableEq, Repr

/-- Before a line. -/
def Prompt.left (prompt : Prompt) : String := if prompt.debug then "[debug] " ++ prompt.text else prompt.text

/-- At the right margin. -/
def rightText : String := ""

/-- Between the prompt and the line: nothing, the chosen text ends as the user likes. -/
def indicator : String := ""

/-- Before further lines of one input. -/
def continuation : String := "... "

/-- While the history is searched for a term. -/
def searchText (failing : Bool) (term : String) : String :=
  "(" ++ (if failing then "failing " else "") ++ "reverse-search: " ++ term ++ ") "

end DeviceConsole.Editor
