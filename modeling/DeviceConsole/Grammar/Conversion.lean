import DeviceConsole.Grammar.Matched

/-!
# `Grammar.Conversion` — what composites make of their inner match

A conversion takes the result of the inner node and gives the result of the composite, or refuses it, so that
the composite does not match. A composite's own kind and label are arguments of the conversions that use them.

## Contents

* conversions of words: `keyword`, `ipAddress`, `classCode`, `instanceCode`, `deviceAlias`, `aliasName`,
  `groupName`, `epc`, `propertyValue`, `anyName`, `propertyAlias`, with what they keep of a word;
* conversions of combined results: `eoj`, `device`, `property`, `groupBy`;
* `ofKind?` — the conversion that belongs to a kind.
-/

namespace DeviceConsole.Grammar.Conversion

open Device (ClassCode Epc)

/-! ## Words -/

/-- A value read off a word. -/
def ofWord (read : String → Option Matched) : Matched → Option Matched
  | .word text => read text
  | _ => none

/-- Exactly the label. -/
def keyword (kind : NodeKind) (label : Option String) : Matched → Option Matched :=
  match label with
  | some label => ofWord fun text => if text = label then some (.keyword kind label) else none
  | none => fun _ => none

/-- An address of either version. -/
def ipAddress : Matched → Option Matched :=
  ofWord fun text => (Net.IpAddress.ofText? text).map .ip

/-- Four hexadecimal digits. -/
def classCode : Matched → Option Matched :=
  ofWord fun text => (ClassCode.ofText? text).map .classCode

/-- One to three decimal digits; the range is checked later. -/
def instanceCode : Matched → Option Matched :=
  ofWord fun text =>
    if text.length ≤ 3 then (Text.Decimal.readDigits? text.toList).map .instanceCode else none

/-- A word that starts with no digit, dash or at sign. -/
def deviceAlias (kind : NodeKind) : Matched → Option Matched :=
  ofWord fun text =>
    match text.toList with
    | [] => none
    | first :: _ =>
      if first == '-' || first == '@' || (Text.Decimal.digitValue? first).isSome then none
      else some (.name kind text)

/-- A word that starts with no dash. -/
def aliasName (kind : NodeKind) : Matched → Option Matched :=
  ofWord fun text => if text.toList.head? = some '-' then none else some (.name kind text)

/-- A word that starts with an at sign. -/
def groupName (kind : NodeKind) : Matched → Option Matched :=
  ofWord fun text => if text.toList.head? = some '@' then some (.name kind text) else none

/-- Two hexadecimal digits. -/
def epc : Matched → Option Matched :=
  ofWord fun text => (Epc.ofText? text).map .epc

/-- A non-empty, even number of hexadecimal digits. -/
def propertyValue : Matched → Option Matched :=
  ofWord fun text => (Device.readEdt? text.toList).map .edt

/-- Any word with a character in it. -/
def anyName (kind : NodeKind) : Matched → Option Matched :=
  ofWord fun text => if text.isEmpty then none else some (.name kind text)

/-- A word that starts with no dash or at sign and is no property code. -/
def propertyAlias (kind : NodeKind) : Matched → Option Matched :=
  ofWord fun text =>
    match text.toList with
    | [] => none
    | first :: _ =>
      if first == '-' || first == '@' || (Epc.ofText? text).isSome then none
      else some (.name kind text)

/-! ### What is kept of a word -/

section Kept

variable {kind : NodeKind} {text : String} {result : Matched}

theorem name_of_aliasName (h : aliasName kind (.word text) = some result) : result = .name kind text := by
  obtain ⟨-, same⟩ := Option.ite_none_left_eq_some.mp h
  exact (Option.some.inj same).symm

theorem name_of_groupName (h : groupName kind (.word text) = some result) : result = .name kind text := by
  obtain ⟨-, same⟩ := Option.ite_none_right_eq_some.mp h
  exact (Option.some.inj same).symm

theorem name_of_anyName (h : anyName kind (.word text) = some result) : result = .name kind text := by
  obtain ⟨-, same⟩ := Option.ite_none_left_eq_some.mp h
  exact (Option.some.inj same).symm

theorem name_of_deviceAlias (h : deviceAlias kind (.word text) = some result) : result = .name kind text := by
  simp only [deviceAlias, ofWord] at h
  split at h
  · cases h
  · obtain ⟨-, same⟩ := Option.ite_none_left_eq_some.mp h
    exact (Option.some.inj same).symm

theorem name_of_propertyAlias (h : propertyAlias kind (.word text) = some result) : result = .name kind text := by
  simp only [propertyAlias, ofWord] at h
  split at h
  · cases h
  · obtain ⟨-, same⟩ := Option.ite_none_left_eq_some.mp h
    exact (Option.some.inj same).symm

theorem keyword_of_keyword {label : String} (h : keyword kind (some label) (.word text) = some result) :
    text = label ∧ result = .keyword kind label := by
  obtain ⟨typed, same⟩ := Option.ite_none_right_eq_some.mp h
  exact ⟨typed, (Option.some.inj same).symm⟩

end Kept

/-! ## Combined results -/

/-- A class code and maybe an instance number. -/
def eoj : Matched → Option Matched
  | .seq [.classCode code, .instanceCode number] => some (.eoj code (some number))
  | .seq [.classCode code, _] => some (.eoj code none)
  | _ => none

theorem exists_of_eoj {found result : Matched} (h : eoj found = some result) :
    ∃ code number, result = .eoj code number := by
  unfold eoj at h
  split at h
  · exact ⟨_, _, (Option.some.inj h).symm⟩
  · exact ⟨_, _, (Option.some.inj h).symm⟩
  · cases h

/-- An address and maybe an object, an object, a group or an alias. -/
def device : Matched → Option Matched
  | .seq (.ip address :: .eoj code number :: _) =>
    some (.device (.address (some address) (some code) number))
  | .seq (.ip address :: _) => some (.device (.address (some address) none none))
  | .eoj code number => some (.device (.address none (some code) number))
  | .name .groupName name => some (.device (.group name))
  | .name .deviceAlias name => some (.device (.aliased name))
  | _ => none

/-- A code with a value, or a name for both. -/
def property : Matched → Option Matched
  | .seq [.epc epc, .edt edt] => some (.property (.raw epc edt))
  | .seq [.epc epc, .name .propertyValueAlias name] => some (.property (.valueAlias epc name))
  | .name .propertyAlias name => some (.property (.aliased name))
  | _ => none

/-- The code after the option word. -/
def groupBy : Matched → Option Matched
  | .seq [_, .epc epc] => some (.groupBy epc)
  | _ => none

/-! ## Conversions by kind -/

/-- The conversion that the command grammar uses for a kind, in a composite of kind `kind` with the label. The
structural kinds have none. -/
def ofKind? (used kind : NodeKind) (label : Option String) : Option (Matched → Option Matched) :=
  match used with
  | .command | .literal | .listOption | .getOption | .updateOption | .deleteOption | .groupAction
  | .onOff => some (keyword kind label)
  | .ipAddress => some ipAddress
  | .classCode => some classCode
  | .instanceCode => some instanceCode
  | .eoj => some eoj
  | .deviceAlias => some (deviceAlias kind)
  | .aliasName => some (aliasName kind)
  | .groupName => some (groupName kind)
  | .deviceSpecifier => some device
  | .epc => some epc
  | .propertyValue => some propertyValue
  | .propertyValueAlias | .helpTopic => some (anyName kind)
  | .propertyAlias => some (propertyAlias kind)
  | .property => some property
  | .groupBy => some groupBy
  | _ => none

end DeviceConsole.Grammar.Conversion
