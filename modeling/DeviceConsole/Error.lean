import DeviceConsole.Device.Endpoint
import DeviceConsole.Device.Name
import DeviceConsole.Grammar.Commands

/-!
# `Error` — why a line, a command or a settings file is refused

An error is its cause; the wording is made from the cause in one place. Causes that come from outside the
console, such as the text of a failed device, are carried as `reported` text.

## Contents

* `InvalidValue`, `LookupFailure` — a line is well formed but a value or a name is refused;
* `ExecutionError` — a command fails;
* `SettingsError` — a settings file is refused;
* `ConsoleError` — all of them, with `ConsoleError.message`.
-/

namespace DeviceConsole

open Device (Endpoint Epc NameError)

/-! ## Lines -/

/-- A value of a line that is refused. The causes from `unexpectedItem` on cannot arise from a line that the
grammar accepts. -/
inductive InvalidValue where
  | instanceOutOfRange (code : Nat)
  | badName (error : NameError)
  | groupNotAllowed (name : String)
  | noEpc
  | unexpectedItem
  | missingDevice
  | noCommandWord
  | unknownCommandWord (name : String)
  | missingGroupAction
  | missingDeletedAlias
  | missingGroupName (action : String)
  | reported (text : String)
  deriving DecidableEq, Repr

/-- The wording of a refused value. -/
def InvalidValue.message : InvalidValue → String
  | instanceOutOfRange code =>
    "instance code must be between 1 and 255: " ++ String.ofList (Text.Decimal.write code)
  | badName error => error.message
  | groupNotAllowed name => "group '" ++ name ++ "' cannot be used here"
  | noEpc => "at least one EPC is required"
  | unexpectedItem => "unexpected item"
  | missingDevice => "missing device"
  | noCommandWord => "input does not start with a command"
  | unknownCommandWord name => "no builder for command '" ++ name ++ "'"
  | missingGroupAction => "missing group action"
  | missingDeletedAlias => "-delete needs an alias name"
  | missingGroupName action => "group " ++ action ++ " needs a group name"
  | reported text => text

/-- A name of a line that stands for nothing. -/
inductive LookupFailure where
  | neitherAlias (name : String)
  | group (name : String)
  | deviceAlias (name : String)
  | valueAlias (name : String) (epc : Epc) (available : List String)
  | propertyAlias (name : String)
  | reported (text : String)
  deriving DecidableEq, Repr

/-- The wording of a failed look-up. -/
def LookupFailure.message : LookupFailure → String
  | neitherAlias name => "'" ++ name ++ "' is neither a device alias nor a property alias"
  | group name => "group '" ++ name ++ "'"
  | deviceAlias name => "device alias '" ++ name ++ "'"
  | valueAlias name epc available =>
    "value alias '" ++ name ++ "' for EPC " ++ epc.toText ++
      if available.isEmpty then "" else " (available: " ++ ", ".intercalate available ++ ")"
  | propertyAlias name => "property alias '" ++ name ++ "'"
  | reported text => text

/-! ## Commands -/

/-- Why a device operation failed. -/
inductive Failure where
  | noResponse (device : Endpoint)
  | cannotGet (device : Endpoint) (epcs : List Epc)
  | cannotSet (device : Endpoint) (epc : Epc)
  | undefinedAlias (name : String)
  | undefinedGroup (name : String)
  | reported (text : String)
  deriving DecidableEq, Repr

/-- The wording of a failure. -/
def Failure.message : Failure → String
  | noResponse device => "No response from " ++ device.toText
  | cannotGet device epcs =>
    device.toText ++ " does not support EPC " ++ ", ".intercalate (epcs.map Epc.toText)
  | cannotSet device epc => device.toText ++ " does not support setting EPC " ++ epc.toText
  | undefinedAlias name => "Alias '" ++ name ++ "' is not defined"
  | undefinedGroup name => "Group '" ++ name ++ "' is not defined"
  | reported text => text

/-- Why a command failed: no device or several match where exactly one has to, the operation itself failed, or
commands are not taken any more. -/
inductive ExecutionError where
  | deviceNotFound (specifier : String)
  | ambiguousDevice (specifier : String) (count : Nat)
  | failed (failure : Failure)
  | dispatcherStopped
  deriving DecidableEq, Repr

/-- The wording of an execution error. -/
def ExecutionError.message : ExecutionError → String
  | deviceNotFound specifier => "No device matches " ++ specifier
  | ambiguousDevice specifier count =>
    String.ofList (Text.Decimal.write count) ++ " devices match " ++ specifier ++ ", specify exactly one"
  | failed cause => cause.message
  | dispatcherStopped => "Command dispatcher is stopped"

/-! ## Settings -/

/-- Why a settings file is refused. -/
inductive SettingsError where
  | fileNotFound (path : String)
  | invalidFormat (detail : String)
  | invalidValue (field value : String)
  | other (text : String)
  deriving DecidableEq, Repr

/-- The wording of a settings error. -/
def SettingsError.message : SettingsError → String
  | fileNotFound path => "Config file not found: " ++ path
  | invalidFormat detail => "Invalid config format: " ++ detail
  | invalidValue field value => "Invalid value '" ++ value ++ "' for field '" ++ field ++ "'"
  | other text => text

/-! ## All errors -/

/-- Any error of the console. -/
inductive ConsoleError where
  | mismatch (mismatch : Grammar.Mismatch)
  | invalidValue (cause : InvalidValue)
  | lookupFailure (cause : LookupFailure)
  | execution (error : ExecutionError)
  | settings (error : SettingsError)
  | grammar (error : Grammar.GrammarError)
  | io (text : String)
  | generic (text : String)
  deriving DecidableEq, Repr

/-- The wording of an error. -/
def ConsoleError.message : ConsoleError → String
  | mismatch found => found.message
  | invalidValue cause => "Invalid value: " ++ cause.message
  | lookupFailure cause => "Not found: " ++ cause.message
  | execution error => "Execution error: " ++ error.message
  | settings error => "Configuration error: " ++ error.message
  | grammar error => "Grammar error: " ++ error.message
  | io text => "I/O error: " ++ text
  | generic text => text

end DeviceConsole
