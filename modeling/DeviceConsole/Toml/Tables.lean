import DeviceConsole.Toml.Value

/-!
# `Toml.Tables` — the tables of a document under construction

Headers and dotted names make tables on the way to a name. What a later line may add to a table depends on what
made it: a header may name a table that so far only lies on the way of other headers, and dotted names may only
extend tables that are not named by a header.

## Contents

* `Origin`, `Item` — what made a table, and what a name stands for;
* `define?` — gives a dotted name a value inside a table;
* `open?`, `openNext?` — a header of a table, and of the next table of an array;
* `within?` — does something to the table that a header opened;
* `Item.value` — the finished value.
-/

namespace DeviceConsole.Toml

/-- What made a table: a header of a table further down, its own header, or a dotted name. -/
inductive Origin where
  | passed
  | named
  | dotted
  deriving DecidableEq, Repr

/-- What a name stands for: a finished value, a table, or an array of tables, which its headers fill. -/
inductive Item where
  | finished (value : Value)
  | table (origin : Origin) (members : List (String × Item))
  | tables (tables : List (List (String × Item)))

/-- Names with what they stand for. -/
abbrev Members := List (String × Item)

/-- Changes what a name stands for, or adds the name; `none` if the change is refused. -/
def change? (name : String) (step : Option Item → Option Item) : Members → Option Members
  | [] => (step none).map fun item => [(name, item)]
  | member :: rest =>
    if member.1 = name then (step (some member.2)).map fun item => (name, item) :: rest
    else (change? name step rest).map (member :: ·)

/-- Changes the last table of an array. -/
def changeLast? (step : Members → Option Members) (tables : List Members) : Option (List Members) :=
  match tables.reverse with
  | [] => none
  | last :: before => (step last).map fun last => (last :: before).reverse

/-! ## Names -/

/-- Gives a dotted name a value. The last table on the way has to be made by dotted names; others may lie on the
way of headers or be the last of an array. -/
def define? (value : Value) : List String → Members → Option Members
  | [], _ => none
  | [name], members =>
    change? name (fun | none => some (.finished value) | some _ => none) members
  | name :: next :: rest, members =>
    change? name (fun
      | none => (define? value (next :: rest) []).map (.table .dotted)
      | some (.table origin inner) =>
        if origin = .named ∨ (rest = [] ∧ origin ≠ .dotted) then none
        else (define? value (next :: rest) inner).map (.table origin)
      | some (.tables tables) =>
        if rest = [] then none else (changeLast? (define? value (next :: rest)) tables).map .tables
      | some (.finished _) => none) members

/-! ## Headers -/

/-- Changes what the last name of a header stands for, making tables on the way. -/
def changeAt? (step : Option Item → Option Item) : List String → Members → Option Members
  | [], _ => none
  | [name], members => change? name step members
  | name :: next :: rest, members =>
    change? name (fun
      | none => (changeAt? step (next :: rest) []).map (.table .passed)
      | some (.table origin inner) => (changeAt? step (next :: rest) inner).map (.table origin)
      | some (.tables tables) => (changeLast? (changeAt? step (next :: rest)) tables).map .tables
      | some (.finished _) => none) members

/-- A header of a table. -/
def open? (path : List String) (root : Members) : Option Members :=
  changeAt? (fun
    | none => some (.table .named [])
    | some (.table .passed inner) => some (.table .named inner)
    | some _ => none) path root

/-- A header of the next table of an array. -/
def openNext? (path : List String) (root : Members) : Option Members :=
  changeAt? (fun
    | none => some (.tables [[]])
    | some (.tables tables) => some (.tables (tables ++ [[]]))
    | some _ => none) path root

/-- Does something to the table that a header opened; no names are the root. -/
def within? (step : Members → Option Members) : List String → Members → Option Members
  | [], root => step root
  | path, root =>
    changeAt? (fun
      | some (.table origin inner) => (step inner).map (.table origin)
      | some (.tables tables) => (changeLast? step tables).map .tables
      | _ => none) path root

/-! ## Finished values -/

mutual

/-- The finished value of an item. -/
def Item.value : Item → Value
  | .finished value => value
  | .table _ members => .table (membersValue members)
  | .tables tables => .array (tablesValue tables)

/-- The finished members of a table. -/
def membersValue : List (String × Item) → List (String × Value)
  | [] => []
  | (name, item) :: rest => (name, item.value) :: membersValue rest

/-- The finished tables of an array. -/
def tablesValue : List (List (String × Item)) → List Value
  | [] => []
  | members :: rest => .table (membersValue members) :: tablesValue rest

end

end DeviceConsole.Toml
