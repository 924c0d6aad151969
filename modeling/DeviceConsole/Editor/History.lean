/-!
# `Editor.History` — lines typed before

## Contents

* `History` — lines, oldest first, and how many are kept;
* `History.add` — remembers a line;
* `History.lastStartingWith?` — the newest line with a beginning.
-/

namespace DeviceConsole.Editor

/-- Lines typed before, oldest first, and how many are kept. -/
structure History where
  capacity : Nat
  lines : List String := []
  deriving DecidableEq, Repr

namespace History

/-- No history can keep this many lines: the largest number of 64 bits. -/
def unaddressable : Nat := 0xFFFFFFFFFFFFFFFF

/-- An empty history of a capacity. -/
def ofCapacity? (capacity : Nat) : Option History :=
  if capacity = unaddressable then none else some ⟨capacity, []⟩

/-- Remembers a line; an empty one and one like the newest are passed over, and the oldest makes room. -/
def add (history : History) (line : String) : History :=
  if line.isEmpty || history.lines.getLast? = some line || history.capacity = 0 then history
  else
    let kept := if history.lines.length = history.capacity then history.lines.drop 1 else history.lines
    { history with lines := kept ++ [line] }

/-- The newest line that starts with a text. -/
def lastStartingWith? (history : History) (text : String) : Option String :=
  history.lines.reverse.find? fun line => text.toList.isPrefixOf line.toList

end History

end DeviceConsole.Editor
