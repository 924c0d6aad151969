import DeviceConsole.Grammar.Commands

/-!
# `Help` — help texts

## Contents

* `Help.Topic`, `Help.topics` — what there is to say of each command;
* `Help.render` — the text for one command, or an overview in grammar order.
-/

namespace DeviceConsole.Help

/-- The help of one command; the description may be empty. -/
structure Topic where
  name : String
  summary : String
  form : String
  description : String
  deriving DecidableEq, Repr

/-- The help of every command. -/
def topics : List Topic :=
  [⟨"discover", "Search the network for devices", "discover",
    "Multicasts a search and caches every device that answers."⟩,
   ⟨"devices", "List known devices",
    "devices [device] [-all | -props | -group-by EPC | EPC:value | EPC | propertyAlias]...",
    "Shows operation status, installation location and the primary properties " ++
    "of each class by default. -all shows every cached property, -props every " ++
    "property with a known name, EPC only the listed ones. EPC:value and " ++
    "property aliases filter devices by value."⟩,
   ⟨"list", "Same as devices", "list [device] [options]...", "See 'help devices'."⟩,
   ⟨"get", "Read properties from a device", "get <device> EPC... [-skip-validation]",
    "Asks the device for the given EPCs. -skip-validation also queries " ++
    "devices discovery has not seen yet."⟩,
   ⟨"set", "Write properties to a device",
    "set <device> (EPC:hex | EPC:valueAlias | propertyAlias)...",
    "Example: set ac 80:on b0:cooling"⟩,
   ⟨"update", "Refresh cached properties", "update [device] [-force]",
    "Refreshes devices whose cache is older than a minute, or all of them " ++
    "with -force."⟩,
   ⟨"alias", "Manage device aliases",
    "alias [<name> [<device> [property]...] | -delete <name>]",
    "Without arguments lists aliases; with a name shows its device; with a " ++
    "device binds the name to the single device matching it."⟩,
   ⟨"group", "Manage device groups",
    "group add|remove @name <device>... | group delete @name | group list [@name]",
    "Groups can be used wherever a device is expected, e.g. set @living off."⟩,
   ⟨"debug", "Show or toggle debug mode", "debug [on | off]",
    "Debug mode logs every command sent to devices."⟩,
   ⟨"help", "Show help", "help [command]", ""⟩,
   ⟨"quit", "Leave the console", "quit", ""⟩]

/-- The help of a command. -/
def find? (name : String) : Option Topic := topics.find? fun topic => topic.name = name

/-- The text for one command. -/
def Topic.render (topic : Topic) : String :=
  topic.summary ++ "\n\n  " ++ topic.form ++ "\n" ++
    if topic.description.isEmpty then "" else "\n" ++ topic.description ++ "\n"

/-- A line of the overview, with the name filled up to the width. -/
def overviewLine (width : Nat) (name : String) : String :=
  let filler := String.ofList (List.replicate (width - name.length) ' ')
  "  " ++ name ++ filler ++ "  " ++ ((find? name).map Topic.summary).getD "" ++ "\n"

/-- The overview of the commands with the given names. -/
def overview (names : List String) : String :=
  let width := (names.map String.length).foldl max 0
  "Commands:\n" ++ String.join (names.map (overviewLine width)) ++
    "\nType 'help <command>' for details."

/-- The text for one command, or the overview. -/
def render : Option String → Except Grammar.GrammarError String
  | some name =>
    match find? name with
    | some topic => .ok topic.render
    | none => .ok ("Unknown command '" ++ name ++ "'. Type 'help' for a list.")
  | none => Grammar.commandNames.map overview

end DeviceConsole.Help
