/-!
# `Toml.Value` — the content of a TOML document

## Contents

* `Value` — texts, whole numbers, truth values, floats, times, arrays and tables; which float and which time it
  is is not kept;
* `Value.member?` — the value of a name in a table.
-/

namespace DeviceConsole.Toml

/-- A value of a document. -/
inductive Value where
  | text (value : String)
  | integer (value : Int)
  | truth (value : Bool)
  | float
  | time
  | array (items : List Value)
  | table (members : List (String × Value))
  deriving Repr

/-- The value of a name in a list of members. -/
def lookup? (name : String) (members : List (String × Value)) : Option Value :=
  (members.find? fun member => member.1 = name).map Prod.snd

/-- The value of a name in a table. -/
def Value.member? (name : String) : Value → Option Value
  | .table members => lookup? name members
  | _ => none

end DeviceConsole.Toml
