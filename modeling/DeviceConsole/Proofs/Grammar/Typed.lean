import DeviceConsole.Command.Builder
import DeviceConsole.Proofs.Grammar.Takes
import DeviceConsole.Proofs.Net.Dotted

/-!
# `Proofs.Grammar.Typed` — arguments as they are typed

A typed argument holds the words of a line together with the values that they are read as, so hexadecimal
digits may stand in either case and instance numbers may have leading zeros. Of each argument this module says
which marks its text spells, and what the node of the grammar makes of them in front of **any** marks that cannot
be taken for more of the argument.

* `Typed` — a word with its value; `Typed.ofEpc`, `Typed.ofClassCode`, … are the canonical words;
* `TypedObject`, `TypedDevice`, `TypedProperty` — arguments of several words;
* `TypedDevice.takes`, `TypedProperty.takes`, `takes_valueAlias`, `takes_epc` — what the grammar makes of them;
* `refuses_device_of_dash`, `refuses_property_of_epc` — what is not taken for them.
-/

namespace DeviceConsole.Grammar

open Device (ClassCode Epc Property Specifier)

/-! ## Words with their values -/

/-- A word of a line that a reader takes for a value. -/
structure Typed {α : Type} (read? : String → Option α) where
  text : String
  value : α
  isWord : IsWord text
  reads : read? text = some value

/-- An instance number on a line: one to three digits, between 1 and 255. -/
def readInstance? (text : String) : Option UInt8 :=
  if text.length ≤ 3 then
    ((Text.Decimal.readDigits? text.toList).filter fun number => 1 ≤ number ∧ number ≤ 255).map UInt8.ofNat
  else none

/-- The value of a property on a line. -/
def readEdtText? (text : String) : Option (List UInt8) := Device.readEdt? text.toList

/-! ### Canonical words -/

theorem isWord_ofList {chars : List Char} (ne : chars ≠ []) (h : ∀ c ∈ chars, isWordChar c = true) :
    IsWord (String.ofList chars) := by
  rw [IsWord, String.toList_ofList]
  exact ⟨ne, h⟩

theorem isWordChar_hexDigit {digit : Nat} (h : digit < 16) :
    isWordChar (Text.Hex.digitChar digit) = true := by
  have all : ∀ d ∈ List.range 16, isWordChar (Text.Hex.digitChar d) = true := by decide
  exact all digit (List.mem_range.mpr h)

theorem isWordChar_decimalDigit {digit : Nat} (h : digit < 10) :
    isWordChar (Text.Decimal.digitChar digit) = true := by
  have all : ∀ d ∈ List.range 10, isWordChar (Text.Decimal.digitChar d) = true := by decide
  exact all digit (List.mem_range.mpr h)

theorem isWord_hexFixed {count value : Nat} (some_digit : count ≠ 0) :
    IsWord (String.ofList (Text.Hex.fixed count value)) := by
  refine isWord_ofList (fun eq => some_digit ?_) fun c hc => ?_
  · rw [← Text.Hex.length_fixed count value, eq]; rfl
  · obtain ⟨digit, lt, rfl⟩ := Text.Hex.mem_fixed hc
    exact isWordChar_hexDigit lt

namespace Typed

/-- A property code in upper case. -/
def ofEpc (epc : Epc) : Typed Epc.ofText? where
  text := epc.toText
  value := epc
  isWord := isWord_hexFixed (by decide)
  reads := by
    have lt : epc.value.toNat < 16 ^ 2 := epc.value.toNat_lt
    rw [Epc.ofText?, Epc.toText, String.toList_ofList, Epc.read?, Text.Hex.readNumber?_fixed lt,
      Option.map_some, UInt8.ofNat_toNat]

/-- A class code in upper case. -/
def ofClassCode (code : ClassCode) : Typed ClassCode.ofText? where
  text := code.toText
  value := code
  isWord := isWord_hexFixed (by decide)
  reads := by
    have lt : code.value.toNat < 16 ^ 4 := code.value.toNat_lt
    rw [ClassCode.ofText?, ClassCode.toText, String.toList_ofList, ClassCode.read?,
      Text.Hex.readNumber?_fixed lt, Option.map_some, UInt16.ofNat_toNat]

/-- An instance number without leading zeros. -/
def ofInstance (code : UInt8) (pos : code ≠ 0) : Typed readInstance? where
  text := String.ofList (Text.Decimal.write code.toNat)
  value := code
  isWord := by
    refine isWord_ofList (Text.Decimal.write_ne_nil _) fun c hc => ?_
    obtain ⟨digit, lt, rfl⟩ := Text.Decimal.mem_write hc
    exact isWordChar_decimalDigit lt
  reads := by
    have lt : code.toNat < 256 := code.toNat_lt
    have one_le : 1 ≤ code.toNat := Nat.pos_of_ne_zero fun zero => pos (UInt8.toNat_inj.mp zero)
    have short : (Text.Decimal.write code.toNat).length ≤ 2 + 1 := Text.Decimal.length_write_le (by omega)
    rw [readInstance?, String.length_ofList, if_pos short, String.toList_ofList,
      Text.Decimal.readDigits?_write, Option.filter_some, if_pos (by simp; omega), Option.map_some,
      UInt8.ofNat_toNat]

/-- The dotted form of an address. -/
def ofDotted (address : Net.Ipv4) : Typed Net.IpAddress.ofText? where
  text := (Net.IpAddress.v4 address).toText
  value := .v4 address
  isWord := by
    refine isWord_ofList ?_ fun c hc => ?_
    · simp [Net.IpAddress.write, Net.Ipv4.write]
    · rcases Net.Ipv4.mem_write hc with rfl | ⟨digit, lt, rfl⟩
      · decide
      · exact isWordChar_decimalDigit lt
  reads := Net.IpAddress.ofText?_dotted address

/-- A property value in upper case. -/
def ofEdt (edt : List UInt8) (ne : edt ≠ []) : Typed readEdtText? where
  text := Device.edtText edt
  value := edt
  isWord := by
    refine isWord_ofList ?_ fun c hc => ?_
    · cases edt with
      | nil => exact absurd rfl ne
      | cons byte rest => simp [Text.Hex.writeBytes]
    · obtain ⟨digit, lt, rfl⟩ := Text.Hex.mem_writeBytes hc
      exact isWordChar_hexDigit lt
  reads := by
    cases edt with
    | nil => exact absurd rfl ne
    | cons byte rest =>
      have bytes := Text.Hex.readBytes?_writeBytes (byte :: rest)
      rw [readEdtText?, Device.edtText, String.toList_ofList]
      rw [Text.Hex.writeBytes] at bytes ⊢
      exact bytes

end Typed

/-! ## One word in the grammar -/

section Words

variable {kind : NodeKind} {convert : Matched → Option Matched} {text : String} {value : Matched}
  {after : List Mark}

theorem takes_leaf (ok : convert (.word text) = some value) :
    Takes (leaf kind .word convert) (.word text :: after) value after :=
  Takes.composite .word ok

theorem refuses_leaf (refused : convert (.word text) = none) :
    Refuses (leaf kind .word convert) (.word text :: after) :=
  Refuses.converted .word refused

/-- In front of a colon or the end of the line there is no word to take. -/
theorem refuses_leaf_of_no_word (h : ∀ text, after.head? ≠ some (.word text)) :
    Refuses (leaf kind .word convert) after :=
  Refuses.composite (Refuses.word h)

theorem refuses_leaf_stop : Refuses (leaf kind .word convert) [.stop] :=
  refuses_leaf_of_no_word (by simp)

theorem takes_keyword {label : String} :
    Takes (wordNode kind label) (.word label :: after) (.keyword kind label) after :=
  Takes.composite .word (if_pos rfl)

theorem refuses_keyword {label : String} (ne : text ≠ label) :
    Refuses (wordNode kind label) (.word text :: after) :=
  Refuses.converted .word (if_neg ne)

theorem refuses_keyword_of_no_word {label : String} (h : ∀ text, after.head? ≠ some (.word text)) :
    Refuses (wordNode kind label) after :=
  Refuses.composite (Refuses.word h)

theorem refuses_keyword_of_head {label : String} (h : after.head? ≠ some (.word label)) :
    Refuses (wordNode kind label) after := by
  by_cases other : ∃ text, after.head? = some (.word text)
  · obtain ⟨text, head⟩ := other
    obtain ⟨rest, rfl⟩ := List.head?_eq_some_iff.mp head
    refine refuses_keyword ?_
    rintro rfl
    exact h head
  · exact refuses_keyword_of_no_word fun text head => other ⟨text, head⟩

theorem refuses_keyword_stop {label : String} : Refuses (wordNode kind label) [.stop] :=
  refuses_keyword_of_no_word (by simp)

theorem takes_epc (epc : Typed Epc.ofText?) : Takes epcNode (.word epc.text :: after) (.epc epc.value) after := by
  refine takes_leaf ?_
  rw [Conversion.epc, Conversion.ofWord, epc.reads]
  rfl

theorem refuses_epc (h : Epc.ofText? text = none) : Refuses epcNode (.word text :: after) := by
  refine refuses_leaf ?_
  rw [Conversion.epc, Conversion.ofWord, h]
  rfl

end Words

/-! ## Objects -/

/-- A class code, and an instance number behind a colon or none. -/
structure TypedObject where
  classCode : Typed ClassCode.ofText?
  instanceCode : Option (Typed readInstance?)

namespace TypedObject

/-- The words of the object. -/
def text (object : TypedObject) : String :=
  match object.instanceCode with
  | none => object.classCode.text
  | some number => object.classCode.text ++ ":" ++ number.text

/-- The marks of the object. -/
def front (object : TypedObject) : List Mark :=
  match object.instanceCode with
  | none => [.word object.classCode.text]
  | some number => [.word object.classCode.text, .colon, .word number.text]

/-- The instance number as the grammar reads it. -/
def number? (object : TypedObject) : Option Nat := object.instanceCode.map fun number => number.value.toNat

theorem spells (object : TypedObject) : Spells object.text object.front := by
  obtain ⟨classCode, _ | number⟩ := object
  · exact .word classCode.isWord
  · exact (Spells.word classCode.isWord).colon (.word number.isWord)

end TypedObject

theorem instanceCode_of_read {text : String} {code : UInt8} (h : readInstance? text = some code) :
    Conversion.instanceCode (.word text) = some (.instanceCode code.toNat) ∧ 1 ≤ code.toNat := by
  unfold readInstance? at h
  split at h
  · next short =>
    obtain ⟨number, read, rfl⟩ := Option.map_eq_some_iff.mp h
    obtain ⟨read, range⟩ := Option.filter_eq_some_iff.mp read
    have range : 1 ≤ number ∧ number ≤ 255 := by simpa using range
    have same : (UInt8.ofNat number).toNat = number := by
      rw [UInt8.toNat_ofNat']; omega
    refine ⟨?_, by omega⟩
    rw [Conversion.instanceCode, Conversion.ofWord, if_pos short, read, same]
    rfl
  · simp at h

/-- An object is taken, in front of anything but a colon that could start its instance number. -/
theorem TypedObject.takes (object : TypedObject) {after : List Mark}
    (ends : object.instanceCode.isNone → after.head? ≠ some .colon) :
    Takes eojNode (object.front ++ after) (.eoj object.classCode.value object.number?) after := by
  obtain ⟨classCode, number⟩ := object
  have first : ∀ {rest}, Takes (leaf .classCode .word Conversion.classCode)
      (.word classCode.text :: rest) (.classCode classCode.value) rest := by
    refine takes_leaf ?_
    rw [Conversion.classCode, Conversion.ofWord, classCode.reads]
    rfl
  cases number with
  | none =>
    -- without a number the optional part must not find a colon to start with
    have skip : Takes (.optional (leaf .instanceCode .colonWord Conversion.instanceCode)) after .skipped after :=
      .skip (Refuses.composite (Refuses.colonWord (ends rfl)))
    exact Takes.composite (.seq (.cons first (.cons skip .nil))) rfl
  | some number =>
    have second : Takes (leaf .instanceCode .colonWord Conversion.instanceCode)
        (.colon :: .word number.text :: after) (.instanceCode number.value.toNat) after :=
      Takes.composite .colonWord (instanceCode_of_read number.reads).1
    exact Takes.composite (.seq (.cons first (.cons second.optional .nil))) rfl

/-- What does not start with a class code is no object. -/
theorem refuses_object {after : List Mark}
    (h : ∀ text, after.head? = some (.word text) → ClassCode.ofText? text = none) : Refuses eojNode after := by
  refine Refuses.composite (Refuses.seq_head ?_)
  by_cases word : ∃ text, after.head? = some (.word text)
  · obtain ⟨text, head⟩ := word
    obtain ⟨rest, rfl⟩ := List.head?_eq_some_iff.mp head
    refine refuses_leaf ?_
    rw [Conversion.classCode, Conversion.ofWord, h text rfl]
    rfl
  · exact Refuses.composite (Refuses.word fun text head => word ⟨text, head⟩)

/-! ## Devices -/

/-- The marks cannot be taken for more of any device. -/
def NoObject (after : List Mark) : Prop :=
  after.head? ≠ some .colon ∧ ∀ text, after.head? = some (.word text) → ClassCode.ofText? text = none

/-- An address and maybe an object, or an object. -/
inductive TypedDevice where
  | address (ip : Typed Net.IpAddress.ofText?) (object : Option TypedObject)
  | anywhere (object : TypedObject)

namespace TypedDevice

/-- The words of the device. -/
def text : TypedDevice → String
  | address ip none => ip.text
  | address ip (some object) => ip.text ++ " " ++ object.text
  | anywhere object => object.text

/-- The marks of the device. -/
def front : TypedDevice → List Mark
  | address ip none => [.word ip.text]
  | address ip (some object) => .word ip.text :: object.front
  | anywhere object => object.front

/-- The devices that are meant. -/
def specifier : TypedDevice → Specifier
  | address ip none => ⟨some ip.value, none, none⟩
  | address ip (some object) =>
    ⟨some ip.value, some object.classCode.value, object.instanceCode.map Typed.value⟩
  | anywhere object => ⟨none, some object.classCode.value, object.instanceCode.map Typed.value⟩

/-- The marks cannot be taken for more of the device: no object behind an address alone, and no colon behind a
class code. -/
def EndsBefore : TypedDevice → List Mark → Prop
  | address _ none, after => ∀ text, after.head? = some (.word text) → ClassCode.ofText? text = none
  | address _ (some _), after | anywhere _, after => after.head? ≠ some .colon

theorem EndsBefore.of_noObject {device : TypedDevice} {after : List Mark} (h : NoObject after) :
    device.EndsBefore after := by
  rcases device with ⟨ip, _ | object⟩ | object
  · exact h.2
  · exact h.1
  · exact h.1

theorem spells (device : TypedDevice) : Spells device.text device.front := by
  cases device with
  | address ip object =>
    cases object with
    | none => exact .word ip.isWord
    | some object => exact (Spells.word ip.isWord).blank object.spells
  | anywhere object => exact object.spells

theorem front_ne_nil (device : TypedDevice) : device.front ≠ [] := by
  rcases device with ⟨ip, _ | object⟩ | ⟨classCode, _ | number⟩ <;> simp [front, TypedObject.front]

end TypedDevice

/-- A partial address as the grammar reads it. -/
def DeviceArg.ofSpecifier (specifier : Specifier) : DeviceArg :=
  .address specifier.ip specifier.classCode (specifier.instanceCode.map UInt8.toNat)

/-- A class code consists of hexadecimal digits. -/
theorem hexDigits_of_classCode {text : String} {code : ClassCode} (h : ClassCode.ofText? text = some code) :
    ∀ c ∈ text.toList, (Text.Hex.digitValue? c).isSome = true := by
  obtain ⟨number, read, -⟩ := Option.map_eq_some_iff.mp h
  unfold Text.Hex.readNumber? at read
  split at read
  · exact Text.Hex.isSome_of_readDigits? read
  · simp at read

/-- A class code is no address. -/
theorem refuses_ip_of_classCode {text : String} {code : ClassCode} {after : List Mark}
    (h : ClassCode.ofText? text = some code) : Refuses ipAddressNode (.word text :: after) := by
  refine refuses_leaf ?_
  rw [Conversion.ipAddress, Conversion.ofWord, Net.IpAddress.ofText?_of_digits (hexDigits_of_classCode h)]
  rfl

/-- **A typed device is taken** in front of anything that is not more of it. -/
theorem TypedDevice.takes (device : TypedDevice) {after : List Mark} (ends : device.EndsBefore after) :
    Takes deviceNode (device.front ++ after) (.device (.ofSpecifier device.specifier)) after := by
  have address : ∀ {ip : Typed Net.IpAddress.ofText?} {rest},
      Takes ipAddressNode (.word ip.text :: rest) (.ip ip.value) rest := by
    intro ip rest
    refine takes_leaf ?_
    rw [Conversion.ipAddress, Conversion.ofWord, ip.reads]
    rfl
  cases device with
  | address ip object =>
    cases object with
    | none =>
      -- an address alone: what follows must not be read as its object
      have bare : Takes (.optional eojNode) after .skipped after := .skip (refuses_object ends)
      exact Takes.composite (.alt_head (.seq (.cons address (.cons bare .nil)))) rfl
    | some object =>
      have rest : Takes (.optional eojNode) (object.front ++ after) _ after :=
        (object.takes fun _ => ends).optional
      refine Takes.composite (.alt_head (.seq (.cons address (.cons rest .nil)))) ?_
      simp [Conversion.device, DeviceArg.ofSpecifier, specifier, TypedObject.number?, Function.comp_def]
  | anywhere object =>
    -- the first alternative has to fail before the object is tried
    have noAddress : Refuses (.seq [ipAddressNode, .optional eojNode]) (object.front ++ after) := by
      refine Refuses.seq_head ?_
      obtain ⟨classCode, _ | number⟩ := object
      · exact refuses_ip_of_classCode classCode.reads
      · exact refuses_ip_of_classCode classCode.reads
    refine Takes.composite (.alt_tail noAddress (.alt_head (object.takes fun _ => ends))) ?_
    simp [Conversion.device, DeviceArg.ofSpecifier, specifier, TypedObject.number?, Function.comp_def]

/-- A class code starts with a hexadecimal digit. -/
theorem classCode_of_head {text : String} {c : Char} {rest : List Char} (chars : text.toList = c :: rest)
    (digit : Text.Hex.digitValue? c = none) : ClassCode.ofText? text = none := by
  cases read : ClassCode.ofText? text with
  | none => rfl
  | some code =>
    have digits := hexDigits_of_classCode read c (chars ▸ List.mem_cons_self)
    rw [digit] at digits
    exact absurd digits (by simp)

/-- A word that starts with no hexadecimal digit is neither an address nor an object. -/
theorem refuses_place_of_head {text : String} {c : Char} {rest : List Char} {after : List Mark}
    (chars : text.toList = c :: rest) (digit : Text.Hex.digitValue? c = none) (colon : c ≠ ':') :
    Refuses ipAddressNode (.word text :: after) ∧ Refuses eojNode (.word text :: after) := by
  constructor
  · refine refuses_leaf ?_
    rw [Conversion.ipAddress, Conversion.ofWord, Net.IpAddress.ofText?_of_head chars digit colon]
    rfl
  · refine refuses_object fun own head => ?_
    rw [List.head?_cons, Option.some.injEq, Mark.word.injEq] at head
    exact head ▸ classCode_of_head chars digit

/-- A group is taken. -/
theorem takes_device_group {name : String} {after : List Mark} (at_sign : name.toList.head? = some '@') :
    Takes deviceNode (.word name :: after) (.device (.group name)) after := by
  obtain ⟨rest, chars⟩ := List.head?_eq_some_iff.mp at_sign
  obtain ⟨noAddress, noObject⟩ := @refuses_place_of_head name '@' rest after chars (by decide) (by decide)
  have group : Takes groupNameNode (.word name :: after) (.name .groupName name) after :=
    takes_leaf (if_pos at_sign)
  exact Takes.composite (.alt_tail (Refuses.seq_head noAddress) (.alt_tail noObject (.alt_head group))) rfl

/-- An option is no device. -/
theorem refuses_device_of_dash {text : String} {after : List Mark} (dash : text.toList.head? = some '-') :
    Refuses deviceNode (.word text :: after) := by
  obtain ⟨rest, chars⟩ := List.head?_eq_some_iff.mp dash
  obtain ⟨noAddress, noObject⟩ := @refuses_place_of_head text '-' rest after chars (by decide) (by decide)
  have noGroup : Refuses groupNameNode (.word text :: after) :=
    refuses_leaf (if_neg (by rw [dash]; decide))
  -- the last alternative is an alias, which may start with anything but a dash, an at sign or a digit
  have noAlias : Conversion.deviceAlias .deviceAlias (.word text) = none := by
    rw [Conversion.deviceAlias, Conversion.ofWord, chars]
    rfl
  exact Refuses.composite (.alt_cons (Refuses.seq_head noAddress) (.alt_cons noObject
    (.alt_cons noGroup (.alt_cons (refuses_leaf noAlias) .alt_nil))))

/-- At the end of a line no device is left. -/
theorem refuses_device_stop : Refuses deviceNode [.stop] :=
  Refuses.composite (.alt_cons (Refuses.seq_head refuses_leaf_stop)
    (.alt_cons (refuses_object (by simp)) (.alt_cons refuses_leaf_stop (.alt_cons refuses_leaf_stop .alt_nil))))

/-! ### What cannot be more of a device -/

theorem noObject_stop : NoObject [.stop] := ⟨by simp, by simp⟩

/-- A word of its own that is no class code. -/
theorem noObject_word {text : String} {after : List Mark} (h : ClassCode.ofText? text = none) :
    NoObject (.word text :: after) := by
  refine ⟨by simp, fun own head => ?_⟩
  rw [List.head?_cons, Option.some.injEq, Mark.word.injEq] at head
  exact head ▸ h

/-- A property code has too few digits for a class code. -/
theorem noObject_epc (epc : Typed Epc.ofText?) {after : List Mark} : NoObject (.word epc.text :: after) := by
  refine noObject_word ?_
  obtain ⟨number, read, -⟩ := Option.map_eq_some_iff.mp epc.reads
  unfold Text.Hex.readNumber? at read
  split at read
  · next two => rw [ClassCode.ofText?, ClassCode.read?, Text.Hex.readNumber?, if_neg (by omega)]; rfl
  · simp at read

/-- An address has characters that a class code lacks. -/
theorem noObject_ip (ip : Typed Net.IpAddress.ofText?) {after : List Mark} :
    NoObject (.word ip.text :: after) := by
  refine noObject_word ?_
  cases read : ClassCode.ofText? ip.text with
  | none => rfl
  | some code =>
    have none_read := Net.IpAddress.ofText?_of_digits (hexDigits_of_classCode read)
    rw [ip.reads] at none_read
    exact absurd none_read (by simp)

/-! ## Properties -/

/-- A property code with a value in hexadecimal behind a colon. -/
structure TypedProperty where
  epc : Typed Epc.ofText?
  edt : Typed readEdtText?

namespace TypedProperty

/-- The words of the property. -/
def text (property : TypedProperty) : String := property.epc.text ++ ":" ++ property.edt.text

/-- The marks of the property. -/
def front (property : TypedProperty) : List Mark :=
  [.word property.epc.text, .colon, .word property.edt.text]

/-- The property that is meant. -/
def value (property : TypedProperty) : Property := ⟨property.epc.value, property.edt.value⟩

theorem spells (property : TypedProperty) : Spells property.text property.front :=
  (Spells.word property.epc.isWord).colon (.word property.edt.isWord)

/-- **A typed property is taken**, whatever follows it. -/
theorem takes (property : TypedProperty) {after : List Mark} :
    Takes propertyNode (property.front ++ after)
      (.property (.raw property.value.epc property.value.edt)) after := by
  have edt : Takes (leaf .propertyValue .colonWord Conversion.propertyValue)
      (.colon :: .word property.edt.text :: after) (.edt property.edt.value) after := by
    have read : Device.readEdt? property.edt.text.toList = some property.edt.value := property.edt.reads
    refine Takes.composite .colonWord ?_
    rw [Conversion.propertyValue, Conversion.ofWord, read]
    rfl
  exact Takes.composite (.alt_head (.seq (.cons (takes_epc property.epc) (.cons (.alt_head edt) .nil)))) rfl

end TypedProperty

/-- A word behind a property code that is no value in hexadecimal is taken for the name of a value. -/
theorem takes_valueAlias (epc : Typed Epc.ofText?) {name : String} (isWord : IsWord name)
    (noHex : readEdtText? name = none) {after : List Mark} :
    Takes propertyNode (.word epc.text :: .colon :: .word name :: after) (.property (.valueAlias epc.value name))
      after := by
  -- the value in hexadecimal is tried first
  have noValue : Refuses (leaf .propertyValue .colonWord Conversion.propertyValue)
      (.colon :: .word name :: after) := by
    refine Refuses.converted .colonWord ?_
    rw [readEdtText?] at noHex
    rw [Conversion.propertyValue, Conversion.ofWord, noHex]
    rfl
  have named : Takes (leaf .propertyValueAlias .colonWord (Conversion.anyName .propertyValueAlias))
      (.colon :: .word name :: after) (.name .propertyValueAlias name) after := by
    refine Takes.composite .colonWord ?_
    have some_char : name.isEmpty = false := by
      rw [Bool.eq_false_iff, ne_eq, String.isEmpty_iff]
      rintro rfl
      exact isWord.1 rfl
    rw [Conversion.anyName, Conversion.ofWord, some_char]
    rfl
  exact Takes.composite (.alt_head (.seq (.cons (takes_epc epc)
    (.cons (.alt_tail noValue (.alt_head named)) .nil)))) rfl

/-- A property code is no name of a property. -/
theorem refuses_name_of_epc (epc : Typed Epc.ofText?) {after : List Mark} :
    Refuses (leaf .propertyAlias .word (Conversion.propertyAlias .propertyAlias)) (.word epc.text :: after) := by
  refine refuses_leaf ?_
  rw [Conversion.propertyAlias, Conversion.ofWord]
  split
  · rfl
  · rw [epc.reads]; simp

/-- A property code without a value behind it is no property. -/
theorem refuses_property_of_epc (epc : Typed Epc.ofText?) {after : List Mark}
    (ends : after.head? ≠ some .colon) : Refuses propertyNode (.word epc.text :: after) := by
  -- the code itself is taken, so the refusal comes from the missing colon
  have noValue : Refuses (.seq [.alt [leaf .propertyValue .colonWord Conversion.propertyValue,
      leaf .propertyValueAlias .colonWord (Conversion.anyName .propertyValueAlias)]]) after :=
    Refuses.seq_head (.alt_cons (Refuses.composite (.colonWord ends))
      (.alt_cons (Refuses.composite (.colonWord ends)) .alt_nil))
  exact Refuses.composite (.alt_cons (Refuses.seq_tail (takes_epc epc) noValue)
    (.alt_cons (refuses_name_of_epc epc) .alt_nil))

/-- In front of a colon or the end of the line there is no property. -/
theorem refuses_property_of_no_word {after : List Mark} (h : ∀ text, after.head? ≠ some (.word text)) :
    Refuses propertyNode after :=
  Refuses.composite (.alt_cons (Refuses.seq_head (refuses_leaf_of_no_word h))
    (.alt_cons (refuses_leaf_of_no_word h) .alt_nil))

theorem refuses_property_stop : Refuses propertyNode [.stop] :=
  refuses_property_of_no_word (by simp)

end DeviceConsole.Grammar
