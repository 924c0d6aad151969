import DeviceConsole.Device.Code
import DeviceConsole.Text.Alphanumeric
import DeviceConsole.Text.WhiteSpace

/-!
# `Device.Name` — names that users give to devices and groups

An alias has to be told from every other word of a command line: it starts with a letter or an underscore, is
no class code and is one word without a colon. A group name is an at sign and at least one more character, none
of them white space.

## Contents

* `NameError` — why a name is refused, with its wording;
* `checkAlias`, `checkGroup` — the two rules.
-/

namespace DeviceConsole.Device

/-- Why a name is refused. -/
inductive NameError where
  | emptyAlias
  | aliasStartsWithDigit (name : String)
  | aliasStartsWithSymbol (name : String)
  | aliasIsClassCode (name : String)
  | aliasHasSeparator (name : String)
  | groupWithoutAt (name : String)
  | groupOfAtAlone
  | groupHasWhiteSpace (name : String)
  deriving DecidableEq, Repr

/-- The wording of a refusal. -/
def NameError.message : NameError → String
  | .emptyAlias => "alias name must not be empty"
  | .aliasStartsWithDigit name => "alias '" ++ name ++ "' must not start with a digit"
  | .aliasStartsWithSymbol name => "alias '" ++ name ++ "' must not start with a symbol"
  | .aliasIsClassCode name => "alias '" ++ name ++ "' looks like a class code"
  | .aliasHasSeparator name => "alias '" ++ name ++ "' must not contain ':' or whitespace"
  | .groupWithoutAt name => "group name '" ++ name ++ "' must start with '@'"
  | .groupOfAtAlone => "group name needs at least one character after '@'"
  | .groupHasWhiteSpace name => "group name '" ++ name ++ "' must not contain whitespace"

/-- Checks an alias name; the first rule that it breaks is the error. -/
def checkAlias (name : String) : Except NameError Unit :=
  match name.toList with
  | [] => .error .emptyAlias
  | first :: rest =>
    if (Text.Decimal.digitValue? first).isSome then .error (.aliasStartsWithDigit name)
    else if !Text.isAlphanumeric first && first != '_' then .error (.aliasStartsWithSymbol name)
    else if (ClassCode.read? (first :: rest)).isSome then .error (.aliasIsClassCode name)
    else if (first :: rest).any fun c => c == ':' || Text.isWhiteSpace c then
      .error (.aliasHasSeparator name)
    else .ok ()

/-- Checks a group name; the first rule that it breaks is the error. -/
def checkGroup (name : String) : Except NameError Unit :=
  match name.toList with
  | '@' :: rest =>
    if rest.isEmpty then .error .groupOfAtAlone
    else if rest.any Text.isWhiteSpace then .error (.groupHasWhiteSpace name)
    else .ok ()
  | _ => .error (.groupWithoutAt name)

end DeviceConsole.Device
