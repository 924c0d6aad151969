import DeviceConsole.Editor.History
import DeviceConsole.Format.Paint
import DeviceConsole.Grammar.Commands
import DeviceConsole.Text.WhiteSpace

/-!
# `Editor.Hint` — how the line being typed may go on

If one keyword alone can complete the word at the end of the line, the rest of it is hinted; otherwise the rest
of the newest line of the history that starts like this one.

## Contents

* `keywordHint?`, `historyHint?` — the two kinds of hints;
* `hint` — the hint for a line with the cursor at a byte;
* `firstWord` — the part of a hint that is taken word by word;
* `showHint` — a hint as it stands behind the line.
-/

namespace DeviceConsole.Editor

open Grammar (commandGrammar splitLastWord tokenize)

/-- What a text has behind a beginning, if it is longer. -/
def rest? (beginning text : String) : Option String :=
  if beginning.toList.isPrefixOf text.toList then
    match text.toList.drop beginning.toList.length with
    | [] => none
    | rest => some (String.ofList rest)
  else none

/-- The rest of the one keyword that can complete the last word. -/
def keywordHint? (line : String) : Option String :=
  let (tokens, word) := splitLastWord (tokenize line)
  if word.isEmpty then none
  else
    let labels := (commandGrammar.candidates tokens).2.filterMap Grammar.Expected.label
    match labels.filterMap (rest? word) with
    | [rest] => some rest
    | _ => none

/-- The rest of the newest line that starts like this one. -/
def historyHint? (history : History) (line : String) : Option String :=
  (history.lastStartingWith? line).bind (rest? line)

/-- The hint for a line; there is none for a blank line or a cursor that is not at its end. -/
def hint (history : History) (line : String) (place : Nat) : String :=
  if place ≠ line.utf8ByteSize ∨ Text.isBlank line then ""
  else (keywordHint? line <|> historyHint? history line).getD ""

/-- The first word of a hint with the white space before it. -/
def firstWord (hint : String) : String :=
  let blanks := hint.toList.takeWhile Text.isWhiteSpace
  let word := (hint.toList.drop blanks.length).takeWhile fun c => !Text.isWhiteSpace c
  String.ofList (blanks ++ word)

/-- A hint as it stands behind the line. -/
def showHint (paint : Format.Paint) (hint : String) : String :=
  if hint.isEmpty then "" else paint.hint hint

end DeviceConsole.Editor
