import DeviceConsole.Device.Endpoint

/-!
# `Grammar.Matched` — what a piece of the grammar found

Every node of the grammar has a kind. The result of a match has the shape of the node that made it: sequences
and repetitions hold the results of their parts, and leaves hold the value that they read.

## Contents

* `NodeKind` — the kinds, with the `name` that messages show and the `identifier` of tree listings;
* `DeviceArg`, `PropertyArg` — devices and properties as written, before names are looked up;
* `Matched` — the results.
-/

namespace DeviceConsole.Grammar

open Device (ClassCode Epc)

/-! ## Kinds -/

/-- The kind of a grammar node. -/
inductive NodeKind where
  | alt
  | seq
  | optional
  | repeated
  | word
  | colon
  | colonWord
  | command
  | literal
  | ipAddress
  | classCode
  | instanceCode
  | eoj
  | deviceAlias
  | aliasName
  | groupName
  | deviceSpecifier
  | epc
  | propertyValue
  | propertyValueAlias
  | propertyAlias
  | property
  | listOption
  | groupBy
  | getOption
  | updateOption
  | deleteOption
  | groupAction
  | onOff
  | helpTopic
  deriving DecidableEq, Repr

namespace NodeKind

/-- Every kind. -/
def all : List NodeKind :=
  [alt, seq, optional, repeated, word, colon, colonWord, command, literal, ipAddress, classCode,
   instanceCode, eoj, deviceAlias, aliasName, groupName, deviceSpecifier, epc, propertyValue,
   propertyValueAlias, propertyAlias, property, listOption, groupBy, getOption, updateOption,
   deleteOption, groupAction, onOff, helpTopic]

/-- The identifier of the kind in a listing of the tree. -/
def identifier : NodeKind → String
  | alt => "Alt"
  | seq => "Seq"
  | optional => "Optional"
  | repeated => "Repeat"
  | word => "Word"
  | colon => "Colon"
  | colonWord => "ColonWord"
  | command => "Command"
  | literal => "Literal"
  | ipAddress => "IpAddress"
  | classCode => "ClassCode"
  | instanceCode => "InstanceCode"
  | eoj => "Eoj"
  | deviceAlias => "DeviceAlias"
  | aliasName => "AliasName"
  | groupName => "GroupName"
  | deviceSpecifier => "DeviceSpecifier"
  | epc => "Epc"
  | propertyValue => "PropertyValue"
  | propertyValueAlias => "PropertyValueAlias"
  | propertyAlias => "PropertyAlias"
  | property => "Property"
  | listOption => "ListOption"
  | groupBy => "GroupBy"
  | getOption => "GetOption"
  | updateOption => "UpdateOption"
  | deleteOption => "DeleteOption"
  | groupAction => "GroupAction"
  | onOff => "OnOff"
  | helpTopic => "HelpTopic"

/-- The name of the kind in messages: abbreviations stand in capitals. -/
def name : NodeKind → String
  | ipAddress => "IPAddress"
  | eoj => "EOJ"
  | epc => "EPC"
  | kind => kind.identifier

/-- The kind with a name. -/
def ofName? (name : String) : Option NodeKind := all.find? fun kind => kind.name == name

end NodeKind

/-! ## Arguments as written -/

/-- A device as written. The instance number is as typed; its range is checked when a command is built. -/
inductive DeviceArg where
  | address (ip : Option Net.IpAddress) (classCode : Option ClassCode) (instanceCode : Option Nat)
  | aliased (name : String)
  | group (name : String)
  deriving DecidableEq, Repr

/-- A property as written: a code with a value in hexadecimal or by name, or a name for both. -/
inductive PropertyArg where
  | raw (epc : Epc) (edt : List UInt8)
  | valueAlias (epc : Epc) (name : String)
  | aliased (name : String)
  deriving DecidableEq, Repr

/-! ## Results -/

/-- The result of a match. -/
inductive Matched where
  | seq (parts : List Matched)
  | skipped
  | repeated (items : List Matched)
  | word (text : String)
  | colon
  | keyword (kind : NodeKind) (label : String)
  | name (kind : NodeKind) (text : String)
  | ip (address : Net.IpAddress)
  | classCode (code : ClassCode)
  | instanceCode (code : Nat)
  | eoj (classCode : ClassCode) (instanceCode : Option Nat)
  | device (arg : DeviceArg)
  | epc (epc : Epc)
  | edt (bytes : List UInt8)
  | property (arg : PropertyArg)
  | groupBy (epc : Epc)
  deriving Repr, Inhabited

end DeviceConsole.Grammar
