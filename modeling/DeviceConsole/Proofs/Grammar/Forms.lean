import DeviceConsole.Proofs.Grammar.Took

/-!
# `Proofs.Grammar.Forms` — the forms of an argument

A device is an address, an object or both, a group or an alias, and a property is a code with a value or a name. What
a match of these nodes took is found here once, mark by mark, together with what was read of every word; who asks for
the marks of an argument goes by its forms.

* `ObjectForm`, `DeviceForm`, `PropertyForm` — the marks of an argument, and what it is read as;
* `objectForm_of_took`, `deviceForm_of_took`, `propertyForm_of_took` — whatever the node took has one of the forms;
* `took_of_takes` — a node that takes a front of marks took this front.
-/

namespace DeviceConsole.Grammar

open Device (ClassCode Epc)

/-- The marks of an object: a class code, and behind a colon an instance number of at most three digits, or none. -/
inductive ObjectForm : List Mark → ClassCode → Option Nat → Prop
  | bare {text : String} {code : ClassCode} : ClassCode.ofText? text = some code → ObjectForm [.word text] code none
  | numbered {text digits : String} {code : ClassCode} {number : Nat} : ClassCode.ofText? text = some code →
      digits.length ≤ 3 → Text.Decimal.readDigits? digits.toList = some number →
      ObjectForm [.word text, .colon, .word digits] code (some number)

/-- The marks of a device. -/
inductive DeviceForm : List Mark → DeviceArg → Prop
  | address {text : String} {ip : Net.IpAddress} : Net.IpAddress.ofText? text = some ip →
      DeviceForm [.word text] (.address (some ip) none none)
  | placed {text : String} {ip : Net.IpAddress} {object : List Mark} {code : ClassCode} {number : Option Nat} :
      Net.IpAddress.ofText? text = some ip → ObjectForm object code number →
      DeviceForm (.word text :: object) (.address (some ip) (some code) number)
  | anywhere {object : List Mark} {code : ClassCode} {number : Option Nat} : ObjectForm object code number →
      DeviceForm object (.address none (some code) number)
  | group {name : String} : name.toList.head? = some '@' → DeviceForm [.word name] (.group name)
  | aliased (name : String) : DeviceForm [.word name] (.aliased name)

/-- The marks of a property. -/
inductive PropertyForm : List Mark → PropertyArg → Prop
  | raw {text value : String} {epc : Epc} {edt : List UInt8} : Epc.ofText? text = some epc →
      Device.readEdt? value.toList = some edt → PropertyForm [.word text, .colon, .word value] (.raw epc edt)
  | valueAlias {text : String} {epc : Epc} (name : String) : Epc.ofText? text = some epc →
      PropertyForm [.word text, .colon, .word name] (.valueAlias epc name)
  | aliased (name : String) : PropertyForm [.word name] (.aliased name)

variable {taken : List Mark} {result : Matched}

/-- **Whatever an object took has one of its forms.** -/
theorem objectForm_of_took (h : eojNode.Took taken result) :
    ∃ code number, result = .eoj code number ∧ ObjectForm taken code number := by
  obtain ⟨found, ⟨_, rfl, _, _, _, _, rfl, rfl, first, _, _, _, _, rfl, rfl, second, rfl, rfl⟩, converted⟩ := h
  obtain ⟨text, rfl, read⟩ := took_word first
  obtain ⟨code, isCode, rfl⟩ := Option.map_eq_some_iff.mp read
  rcases second with ⟨rfl, rfl⟩ | second
  · cases converted
    exact ⟨code, none, rfl, .bare isCode⟩
  · obtain ⟨digits, rfl, read⟩ := took_colonWord second
    obtain ⟨short, read⟩ := Option.ite_none_right_eq_some.mp read
    obtain ⟨number, isNumber, rfl⟩ := Option.map_eq_some_iff.mp read
    cases converted
    exact ⟨code, some number, rfl, .numbered isCode short isNumber⟩

/-- **Whatever a device took has one of its forms.** -/
theorem deviceForm_of_took (h : deviceNode.Took taken result) :
    ∃ arg, result = .device arg ∧ DeviceForm taken arg := by
  obtain ⟨found, took, converted⟩ := h
  rcases took with placed | object | group | alone | never
  · obtain ⟨_, rfl, _, _, _, _, rfl, rfl, address, _, _, _, _, rfl, rfl, object, rfl, rfl⟩ := placed
    obtain ⟨text, rfl, read⟩ := took_word address
    obtain ⟨ip, isAddress, rfl⟩ := Option.map_eq_some_iff.mp read
    rcases object with ⟨rfl, rfl⟩ | object
    · cases converted
      exact ⟨_, rfl, .address isAddress⟩
    · obtain ⟨code, number, rfl, form⟩ := objectForm_of_took object
      cases converted
      rw [List.append_nil]
      exact ⟨_, rfl, .placed isAddress form⟩
  · obtain ⟨code, number, rfl, form⟩ := objectForm_of_took object
    cases converted
    exact ⟨_, rfl, .anywhere form⟩
  · obtain ⟨name, rfl, read⟩ := took_word group
    obtain ⟨at_sign, -⟩ := Option.ite_none_right_eq_some.mp read
    obtain rfl := Conversion.name_of_groupName read
    cases converted
    exact ⟨_, rfl, .group at_sign⟩
  · obtain ⟨name, rfl, read⟩ := took_word alone
    obtain rfl := Conversion.name_of_deviceAlias read
    cases converted
    exact ⟨_, rfl, .aliased name⟩
  · exact never.elim

/-- **Whatever a property took has one of its forms.** -/
theorem propertyForm_of_took (h : propertyNode.Took taken result) :
    ∃ arg, result = .property arg ∧ PropertyForm taken arg := by
  obtain ⟨found, took, converted⟩ := h
  rcases took with valued | alone | never
  · obtain ⟨_, rfl, _, _, _, _, rfl, rfl, first, _, _, _, _, rfl, rfl, value, rfl, rfl⟩ := valued
    obtain ⟨text, rfl, read⟩ := took_word first
    obtain ⟨epc, isCode, rfl⟩ := Option.map_eq_some_iff.mp read
    rcases value with bytes | named | never
    · obtain ⟨digits, rfl, read⟩ := took_colonWord bytes
      obtain ⟨edt, isValue, rfl⟩ := Option.map_eq_some_iff.mp read
      cases converted
      exact ⟨_, rfl, .raw isCode isValue⟩
    · obtain ⟨name, rfl, read⟩ := took_colonWord named
      obtain rfl := Conversion.name_of_anyName read
      cases converted
      exact ⟨_, rfl, .valueAlias name isCode⟩
    · exact never.elim
  · obtain ⟨name, rfl, read⟩ := took_word alone
    obtain rfl := Conversion.name_of_propertyAlias read
    cases converted
    exact ⟨_, rfl, .aliased name⟩
  · exact never.elim

/-- There are tokens with any marks. -/
theorem exists_marks (before : List Mark) : ∃ tokens, marks tokens = before := by
  induction before with
  | nil => exact ⟨[], rfl⟩
  | cons mark rest ih =>
    obtain ⟨tokens, rfl⟩ := ih
    cases mark with
    | word text => exact ⟨.word 0 text :: tokens, rfl⟩
    | colon => exact ⟨.colon 0 :: tokens, rfl⟩
    | stop => exact ⟨.endOfInput 0 "" :: tokens, rfl⟩

/-- A node that takes a front of some marks took this front. -/
theorem took_of_takes {node : Node} {front after : List Mark} (h : Takes node (front ++ after) result after) :
    node.Took front result := by
  obtain ⟨tokens, marked⟩ := exists_marks (front ++ after)
  obtain ⟨consumed, matched, left⟩ := h tokens marked
  obtain ⟨-, took⟩ := node.took_of_matchTokens matched
  have cut : marks (tokens.take consumed) ++ after = front ++ after := by
    rw [← marked, ← left, marks, marks, marks, ← List.map_append, List.take_append_drop]
  rwa [List.append_cancel_right cut] at took

end DeviceConsole.Grammar
