import DeviceConsole.Grammar.Candidates
import DeviceConsole.Grammar.Conversion
import DeviceConsole.Grammar.Traversal

/-!
# `Grammar.Commands` — the language of command lines

```text
discover
devices|list [device] [-all|-props|-group-by EPC|property|EPC]...
get <device> (EPC|-skip-validation)...
set <device> property...
update [device] [-force|-f|--force]...
alias [name [device [property...]] | -delete name]
group (add|remove) @name device... | group delete @name | group list [@name]
debug [on|off]
help [command]
quit

device   := address [object] | object | @group | alias
object   := classCode [":" instanceCode]
property := EPC ":" (hexValue | valueAlias) | propertyAlias
```

## Contents

* the words and arguments, as nodes;
* `commandGrammar` — the tree of the whole language;
* `Mismatch` — where and why a line is not in the language;
* `parseTokens` — matches a whole line;
* `commandNames` — the command words in grammar order.
-/

namespace DeviceConsole.Grammar

/-! ## Words -/

/-- A composite over one recogniser. -/
def leaf (kind : NodeKind) (recogniser : Primitive) (convert : Matched → Option Matched) : Node :=
  .composite kind none convert (.primitive recogniser)

/-- Exactly one word. -/
def wordNode (kind : NodeKind) (label : String) : Node :=
  .composite kind (some label) (Conversion.keyword kind (some label)) (.primitive .word)

/-- A command word. -/
def commandWord (label : String) : Node := wordNode .command label

/-! ## Devices -/

/-- An address. -/
def ipAddressNode : Node := leaf .ipAddress .word Conversion.ipAddress

/-- A class code and maybe an instance number. -/
def eojNode : Node :=
  .composite .eoj none Conversion.eoj
    (.seq [leaf .classCode .word Conversion.classCode,
      .optional (leaf .instanceCode .colonWord Conversion.instanceCode)])

/-- The name of a group. -/
def groupNameNode : Node := leaf .groupName .word (Conversion.groupName .groupName)

/-- A device: an address, an object, a group or an alias. -/
def deviceNode : Node :=
  .composite .deviceSpecifier none Conversion.device
    (.alt [.seq [ipAddressNode, .optional eojNode], eojNode, groupNameNode,
      leaf .deviceAlias .word (Conversion.deviceAlias .deviceAlias)])

/-! ## Properties -/

/-- A property code. -/
def epcNode : Node := leaf .epc .word Conversion.epc

/-- A property: a code with a value, or a name for both. -/
def propertyNode : Node :=
  .composite .property none Conversion.property
    (.alt [.seq [epcNode,
        .alt [leaf .propertyValue .colonWord Conversion.propertyValue,
          leaf .propertyValueAlias .colonWord (Conversion.anyName .propertyValueAlias)]],
      leaf .propertyAlias .word (Conversion.propertyAlias .propertyAlias)])

/-! ## Commands -/

/-- `discover` -/
def discoverCommand : Node := .seq [commandWord "discover"]

/-- The option that groups a listing by a property. -/
def groupByNode : Node :=
  .composite .groupBy none Conversion.groupBy (.seq [wordNode .listOption "-group-by", epcNode])

/-- `devices|list [device] [-all|-props|-group-by EPC|property|EPC]...` -/
def devicesCommand : Node :=
  .seq [.alt [commandWord "devices", commandWord "list"],
    .optional deviceNode,
    .optional (.repeated (.alt [wordNode .listOption "-all", wordNode .listOption "-props",
      groupByNode, propertyNode, epcNode]))]

/-- `get <device> (EPC|-skip-validation)...` -/
def getCommand : Node :=
  .seq [commandWord "get", deviceNode,
    .repeated (.alt [epcNode, wordNode .getOption "-skip-validation"])]

/-- `set <device> property...` -/
def setCommand : Node := .seq [commandWord "set", deviceNode, .repeated propertyNode]

/-- `update [device] [-force|-f|--force]...` -/
def updateCommand : Node :=
  .seq [commandWord "update", .optional deviceNode,
    .optional (.repeated (.alt [wordNode .updateOption "-force", wordNode .updateOption "-f",
      wordNode .updateOption "--force"]))]

/-- The name of an alias. -/
def aliasNameNode : Node := leaf .aliasName .word (Conversion.aliasName .aliasName)

/-- `alias [name [device [property...]] | -delete name]` -/
def aliasCommand : Node :=
  .seq [commandWord "alias",
    .optional (.alt [.seq [wordNode .deleteOption "-delete", aliasNameNode],
      .seq [aliasNameNode, .optional (.seq [deviceNode, .optional (.repeated propertyNode)])]])]

/-- A group action on named members. -/
def membersNode (action : String) : Node :=
  .seq [wordNode .groupAction action, groupNameNode, .repeated deviceNode]

/-- `group (add|remove) @name device... | group delete @name | group list [@name]` -/
def groupCommand : Node :=
  .seq [commandWord "group",
    .alt [membersNode "add", membersNode "remove",
      .seq [wordNode .groupAction "delete", groupNameNode],
      .seq [wordNode .groupAction "list", .optional groupNameNode]]]

/-- `debug [on|off]` -/
def debugCommand : Node :=
  .seq [commandWord "debug", .optional (.alt [wordNode .onOff "on", wordNode .onOff "off"])]

/-- `help [command]` -/
def helpCommand : Node :=
  .seq [commandWord "help", .optional (leaf .helpTopic .word (Conversion.anyName .helpTopic))]

/-- `quit` -/
def quitCommand : Node := .seq [commandWord "quit"]

/-- The whole language. -/
def commandGrammar : Node :=
  .alt [discoverCommand, devicesCommand, getCommand, setCommand, updateCommand, aliasCommand,
    groupCommand, debugCommand, helpCommand, quitCommand]

/-! ## Whole lines -/

/-- A line that is not in the language: the column of the first token that could not be taken, its text (empty
at the end of the line) and what could have stood there. -/
structure Mismatch where
  position : Nat
  found : String
  expected : List String
  deriving DecidableEq, Repr

/-- The wording of a mismatch. -/
def Mismatch.message (mismatch : Mismatch) : String :=
  let place := " at " ++ String.ofList (Text.Decimal.write mismatch.position)
  (if mismatch.found.isEmpty then "Unexpected end of input" ++ place
    else "Unexpected '" ++ mismatch.found ++ "'" ++ place) ++
  if mismatch.expected.isEmpty then ""
    else ", expected one of: " ++ ", ".intercalate mismatch.expected

/-- The mismatch of a line: the first token at or after the column where the walk stops. -/
def mismatchOf (tokens : List Token) : Mismatch :=
  let (position, expected) := commandGrammar.candidates tokens
  let found := tokens.find? fun token => decide (position ≤ token.position) && !token.isEnd
  ⟨position, (found.map Token.text).getD "", addAllNew [] (expected.map Expected.toText)⟩

/-- Matches a whole line: nothing but the end of the line may be left. -/
def parseTokens (tokens : List Token) : Except Mismatch Matched :=
  match commandGrammar.matchTokens tokens with
  | some (matched, consumed) =>
    if tokens[consumed]?.all Token.isEnd then .ok matched else .error (mismatchOf tokens)
  | none => .error (mismatchOf tokens)

/-- The command words, in grammar order. -/
def commandNames : Except GrammarError (List String) := commandGrammar.collectLabels .command

end DeviceConsole.Grammar
