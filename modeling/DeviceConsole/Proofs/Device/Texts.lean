import DeviceConsole.Device.Record
import DeviceConsole.Proofs.Grammar.Typed
import DeviceConsole.Proofs.Grammar.Wording
import DeviceConsole.Proofs.Json.ReadBack
import DeviceConsole.Proofs.Net.ReadBack

/-!
# `Proofs.Device.Texts` — texts of properties and devices are read back

Properties and devices are written in three ways: as texts on the console, in the settings file, and as records in JSON.
Each of them has a reader with rules of its own on the case of digits, on empty values and on colons, and each reads
back what its writer has written. The reader of property texts takes no others than the written ones, but for the case
of digits. An object with instance 0 is the one thing that is written and not read.

* `HexDigit`, `isSome_readNumber?_iff`, `isSome_readBytes?_iff` — which texts are numbers and byte strings;
* `PropertyText`, `Property.ofText?_eq_some_iff` — which texts are properties, and what they say;
* `Property.ofJson?_toJson`, `Endpoint.ofJson?_toJson` — records;
* `Eoj.ofText_toText` — objects;
* `texts_are_read_back` — **properties and devices are read back from each of their texts**.
-/

namespace DeviceConsole.Text

variable {c : Char} {text : List Char} {count : Nat}

/-- The digits and the letters A to F in either case. -/
def HexDigit (c : Char) : Prop := c ∈ "0123456789ABCDEFabcdef".toList

theorem Hex.isSome_digitValue?_iff : (digitValue? c).isSome = true ↔ HexDigit c := by
  constructor
  · intro digit
    obtain ⟨value, read⟩ := Option.isSome_iff_exists.mp digit
    have all : ∀ n ∈ List.range 128, (digitValue? (Char.ofNat n)).isSome = true →
        Char.ofNat n ∈ "0123456789ABCDEFabcdef".toList := by decide +kernel
    have own := all c.toNat (List.mem_range.mpr (toNat_lt_of_digitValue? read))
    rw [Char.ofNat_toNat] at own
    exact own digit
  · have all : ("0123456789ABCDEFabcdef".toList.all fun c => (digitValue? c).isSome) = true := by decide
    exact List.all_eq_true.mp all c

theorem Hex.isSome_readDigits?_iff : (readDigits? text).isSome = true ↔ ∀ c ∈ text, HexDigit c := by
  induction text using List.reverseRecOn with
  | nil => simp [readDigits?]
  | append_singleton front last ih =>
    have each : (∀ c ∈ front ++ [last], HexDigit c) ↔ (∀ c ∈ front, HexDigit c) ∧ HexDigit last := by
      simp [or_imp, forall_and]
    rw [readDigits?_concat, each, ← ih, ← isSome_digitValue?_iff]
    cases readDigits? front <;> cases digitValue? last <;> simp

theorem Hex.isSome_readNumber?_iff :
    (readNumber? count text).isSome = true ↔ text.length = count ∧ ∀ c ∈ text, HexDigit c := by
  rw [readNumber?, ← isSome_readDigits?_iff]
  split
  · next length => simp [length]
  · next other => simp [other]

/-- **Two digits a byte** are read, and nothing else. -/
theorem Hex.isSome_readBytes?_iff :
    (readBytes? text).isSome = true ↔ 2 ∣ text.length ∧ ∀ c ∈ text, HexDigit c := by
  induction text using readBytes?.induct with
  | case1 => simp [readBytes?]
  | case2 c => simp [readBytes?]
  | case3 high low rest ih =>
    have even : 2 ∣ (high :: low :: rest).length ↔ 2 ∣ rest.length := by
      rw [List.length_cons, List.length_cons]
      omega
    have each : (∀ c ∈ high :: low :: rest, HexDigit c) ↔ HexDigit high ∧ HexDigit low ∧ ∀ c ∈ rest, HexDigit c := by
      simp
    rw [even, each, ← isSome_digitValue?_iff, ← isSome_digitValue?_iff, readBytes?]
    cases digitValue? high with
    | none => simp
    | some _ =>
      cases digitValue? low with
      | none => simp
      | some _ =>
        rw [Option.isSome_some, Option.isSome_some, and_iff_right rfl, and_iff_right rfl, ← ih]
        cases readBytes? rest <;> simp

theorem Hex.colon_not_mem_fixed {value : Nat} : ':' ∉ fixed count value := by
  have digits : ∀ digit ∈ List.range 16, digitChar digit ≠ ':' := by decide
  intro colon
  obtain ⟨digit, small, same⟩ := mem_fixed colon
  exact digits digit (List.mem_range.mpr small) same.symm

end DeviceConsole.Text

namespace DeviceConsole.Device

open Json (Value)
open Text (Decimal.write HexDigit)

variable {text : String}

/-! ## Texts with a colon -/

/-- The part in front of the first colon. -/
theorem takeWhile_colon {head : List Char} (colonless : ':' ∉ head) (tail : List Char) :
    (head ++ ':' :: tail).takeWhile (· != ':') = head := by
  have inside : ∀ c ∈ head, (c != ':') = true := by
    intro c mem
    rw [bne_iff_ne]
    rintro rfl
    exact colonless mem
  rw [List.takeWhile_append_of_pos inside, List.takeWhile_cons_of_neg (by decide), List.append_nil]

/-- A text is cut at its first colon. -/
theorem splitColon?_eq_some_iff {chars head tail : List Char} :
    splitColon? chars = some (head, tail) ↔ ':' ∉ head ∧ chars = head ++ ':' :: tail := by
  constructor
  · intro h
    have colonless : ':' ∉ chars.takeWhile (· != ':') := fun mem => absurd (List.mem_takeWhile_imp mem) (by decide)
    have parts := List.prefix_iff_eq_append.mp (List.takeWhile_prefix (l := chars) (· != ':'))
    have behind : chars.drop (chars.takeWhile (· != ':')).length = chars.dropWhile (· != ':') :=
      List.append_cancel_left (parts.trans List.takeWhile_append_dropWhile.symm)
    unfold splitColon? at h
    simp only at h
    split at h
    · cases h
    · next first rest shape =>
      cases h
      -- what stops the first part is a colon
      have stop := List.head?_dropWhile_not (· != ':') chars
      rw [← behind, shape, List.head?_cons] at stop
      have colon : first = ':' := by simpa using stop
      rw [shape, colon] at parts
      exact ⟨colonless, parts.symm⟩
  · rintro ⟨colonless, rfl⟩
    unfold splitColon?
    simp only [takeWhile_colon colonless, List.drop_left]

/-! ## Texts of properties -/

theorem Property.toList_toText (property : Property) :
    property.toText.toList = property.epc.toText.toList ++ ':' :: (edtText property.edt).toList := by
  rw [toText, String.toList_append, String.toList_append, List.append_assoc]
  rfl

/-- Two digits, a colon, and one byte or more of two digits each. -/
structure PropertyParts (text : String) (code value : List Char) : Prop where
  parts : text.toList = code ++ ':' :: value
  two_digits : code.length = 2
  some_byte : value ≠ []
  bytes : 2 ∣ value.length
  digits : ∀ c ∈ code ++ value, HexDigit c

/-- The text has the form of a property. -/
def PropertyText (text : String) : Prop := ∃ code value, PropertyParts text code value

/-- A property is read from a code in front of the first colon and a value behind it. -/
theorem Property.ofText?_eq_some {property : Property} :
    ofText? text = some property ↔ ∃ code value, ':' ∉ code ∧ text.toList = code ++ ':' :: value
      ∧ Epc.read? code = some property.epc ∧ readEdt? value = some property.edt := by
  unfold ofText? read?
  constructor
  · intro h
    obtain ⟨⟨code, value⟩, split, h⟩ := Option.bind_eq_some_iff.mp h
    obtain ⟨epc, readCode, h⟩ := Option.bind_eq_some_iff.mp h
    obtain ⟨edt, readValue, same⟩ := Option.bind_eq_some_iff.mp h
    cases same
    obtain ⟨colonless, parts⟩ := splitColon?_eq_some_iff.mp split
    exact ⟨code, value, colonless, parts, readCode, readValue⟩
  · rintro ⟨code, value, colonless, parts, readCode, readValue⟩
    rw [splitColon?_eq_some_iff.mpr ⟨colonless, parts⟩]
    simp only [Option.bind_eq_bind, Option.bind_some, readCode, readValue, Option.pure_def]

theorem colon_not_mem_digits {chars : List Char} (digits : ∀ c ∈ chars, HexDigit c) : ':' ∉ chars := by
  intro mem
  have digit : ':' ∈ "0123456789ABCDEFabcdef".toList := digits ':' mem
  exact absurd digit (by decide)

theorem isSome_readEdt?_iff {value : List Char} :
    (readEdt? value).isSome = true ↔ value ≠ [] ∧ 2 ∣ value.length ∧ ∀ c ∈ value, HexDigit c := by
  rw [← Text.Hex.isSome_readBytes?_iff]
  cases value with
  | nil => simp [readEdt?]
  | cons c rest => simp [readEdt?]

/-- **The texts that are read are those of the form of a property.** -/
theorem Property.isSome_ofText?_iff (text : String) : (ofText? text).isSome = true ↔ PropertyText text := by
  have codes {code : List Char} : (Epc.read? code).isSome = true ↔ code.length = 2 ∧ ∀ c ∈ code, HexDigit c := by
    rw [← Text.Hex.isSome_readNumber?_iff, Epc.read?, Option.isSome_map]
  constructor
  · intro read
    obtain ⟨property, h⟩ := Option.isSome_iff_exists.mp read
    obtain ⟨code, value, -, parts, readCode, readValue⟩ := ofText?_eq_some.mp h
    obtain ⟨two, codeDigits⟩ := codes.mp (Option.isSome_iff_exists.mpr ⟨_, readCode⟩)
    obtain ⟨some_byte, even, valueDigits⟩ := isSome_readEdt?_iff.mp (Option.isSome_iff_exists.mpr ⟨_, readValue⟩)
    refine ⟨code, value, parts, two, some_byte, even, fun c mem => ?_⟩
    rcases List.mem_append.mp mem with inCode | inValue
    · exact codeDigits c inCode
    · exact valueDigits c inValue
  · rintro ⟨code, value, parts, two, some_byte, even, digits⟩
    have codeDigits : ∀ c ∈ code, HexDigit c := fun c mem => digits c (List.mem_append_left _ mem)
    have valueDigits : ∀ c ∈ value, HexDigit c := fun c mem => digits c (List.mem_append_right _ mem)
    obtain ⟨epc, readCode⟩ := Option.isSome_iff_exists.mp (codes.mpr ⟨two, codeDigits⟩)
    obtain ⟨edt, readValue⟩ := Option.isSome_iff_exists.mp (isSome_readEdt?_iff.mpr ⟨some_byte, even, valueDigits⟩)
    refine Option.isSome_iff_exists.mpr ⟨⟨epc, edt⟩, ofText?_eq_some.mpr ?_⟩
    exact ⟨code, value, colon_not_mem_digits codeDigits, parts, readCode, readValue⟩

/-- **A property is read back from its text** if its value is not empty. -/
theorem Property.ofText?_toText {property : Property} (some_byte : property.edt ≠ []) :
    ofText? property.toText = some property := by
  have code := (Grammar.Typed.ofEpc property.epc).reads
  have value := (Grammar.Typed.ofEdt property.edt some_byte).reads
  refine ofText?_eq_some.mpr ⟨_, _, ?_, property.toList_toText, code, value⟩
  rw [Epc.toText, String.toList_ofList]
  exact Text.Hex.colon_not_mem_fixed

/-- A property that is read is written with the digits that it was read from, in upper case. -/
theorem Property.toText_of_ofText? {property : Property} (h : ofText? text = some property) :
    property.toText = text.toUpper := by
  obtain ⟨code, value, -, parts, readCode, readValue⟩ := ofText?_eq_some.mp h
  have codeText : Epc.ofText? (String.ofList code) = some property.epc := by
    rw [Epc.ofText?, String.toList_ofList, readCode]
  have valueText : readEdt? (String.ofList value).toList = some property.edt := by
    rw [String.toList_ofList, readValue]
  obtain ⟨_, ⟨⟩, epc⟩ := Grammar.writtenAs_epc codeText
  obtain ⟨_, ⟨⟩, edt⟩ := Grammar.writtenAs_edt valueText
  have epc : (String.ofList code).toUpper = property.epc.toText := Grammar.Mark.word.inj epc
  have edt : (String.ofList value).toUpper = edtText property.edt := Grammar.Mark.word.inj edt
  rw [String.ext_iff, toList_toText, ← epc, ← edt, Grammar.toUpper_eq_ofList, Grammar.toUpper_eq_ofList,
    Grammar.toUpper_eq_ofList text, parts]
  simp

/-- What is read has a value. -/
theorem Property.edt_ne_nil_of_ofText? {property : Property} (h : ofText? text = some property) :
    property.edt ≠ [] := by
  obtain ⟨code, value, -, -, -, readValue⟩ := ofText?_eq_some.mp h
  cases value with
  | nil => cases readValue
  | cons c rest =>
    intro empty
    have written := Text.Hex.writeBytes_of_readBytes? (show Text.Hex.readBytes? (c :: rest) = _ from readValue)
    rw [empty] at written
    cases written

/-- No two properties are written alike: a code has two digits. -/
theorem Property.toText_injective {property other : Property} (same : property.toText = other.toText) :
    property = other := by
  have two (epc : Epc) : epc.toText.toList.length = 2 := by
    rw [Epc.toText, String.toList_ofList, Text.Hex.length_fixed]
  have chars := congrArg String.toList same
  rw [toList_toText, toList_toText] at chars
  obtain ⟨codes, behind⟩ := List.append_inj chars ((two _).trans (two _).symm)
  have digits := (List.cons.inj behind).2
  rw [edtText, edtText, String.toList_ofList, String.toList_ofList] at digits
  have values := Text.Hex.readBytes?_writeBytes property.edt
  rw [digits, Text.Hex.readBytes?_writeBytes] at values
  have sameCode := Epc.toText_injective (String.toList_inj.mp codes)
  have sameValue := Option.some.inj values
  cases property
  cases other
  cases sameCode
  cases sameValue
  rfl

/-- **What a text of a property says** is what is written with its digits in upper case. -/
theorem Property.ofText?_eq_some_iff {property : Property} :
    ofText? text = some property ↔ PropertyText text ∧ property.toText = text.toUpper := by
  constructor
  · intro h
    refine ⟨(isSome_ofText?_iff text).mp ?_, toText_of_ofText? h⟩
    rw [h, Option.isSome_some]
  · rintro ⟨form, written⟩
    obtain ⟨found, read⟩ := Option.isSome_iff_exists.mp ((isSome_ofText?_iff text).mpr form)
    rw [← toText_of_ofText? read] at written
    rw [read, toText_injective written]

/-! ## Records -/

theorem natural?_of_lt {limit number : Nat} (small : number < limit + 1) :
    natural? limit (.natural number) = some number := by
  rw [natural?, if_pos (Nat.le_of_lt_succ small)]

theorem Property.ofJson?_toJson (property : Property) : ofJson? property.toJson = some property := by
  have fields : fields? ["epc", "edt"] property.toJson
      = some [.natural property.epc.value.toNat, .ofText (edtText property.edt)] := rfl
  have bytes : Text.Hex.readBytes? (edtText property.edt).toList = some property.edt := by
    rw [edtText, String.toList_ofList, Text.Hex.readBytes?_writeBytes]
  have value : text? (.ofText (edtText property.edt)) = some (edtText property.edt) := rfl
  rw [ofJson?, fields]
  simp only [Option.bind_eq_bind, Option.bind_some, natural?_of_lt property.epc.value.toNat_lt, value, bytes,
    Option.pure_def, UInt8.ofNat_toNat]

theorem Eoj.ofJson?_toJson (eoj : Eoj) : ofJson? eoj.toJson = some eoj := by
  have fields : fields? ["class_code", "instance_code"] eoj.toJson
      = some [.natural eoj.classCode.value.toNat, .natural eoj.instanceCode.toNat] := rfl
  rw [ofJson?, fields]
  simp only [Option.bind_eq_bind, Option.bind_some, natural?_of_lt eoj.classCode.value.toNat_lt,
    natural?_of_lt eoj.instanceCode.toNat_lt, Option.pure_def, UInt16.ofNat_toNat, UInt8.ofNat_toNat]

theorem Endpoint.ofJson?_toJson (device : Endpoint) : ofJson? device.toJson = some device := by
  have fields : fields? ["ip", "eoj"] device.toJson = some [.ofText device.ip.toText, device.eoj.toJson] := rfl
  have address : text? (.ofText device.ip.toText) = some device.ip.toText := rfl
  rw [ofJson?, fields]
  simp only [Option.bind_eq_bind, Option.bind_some, address, Net.IpAddress.ofText?_toText, Eoj.ofJson?_toJson,
    Option.pure_def]

theorem Property.plain_toJson (property : Property) : property.toJson.Plain := ⟨rfl, trivial, rfl, rfl, trivial⟩

theorem Endpoint.plain_toJson (device : Endpoint) : device.toJson.Plain :=
  ⟨rfl, rfl, rfl, ⟨rfl, trivial, rfl, trivial, trivial⟩, trivial⟩

/-! ## Objects -/

/-- An instance number is read back unless it is zero. -/
theorem Eoj.readInstance?_write (number : UInt8) :
    readInstance? (Decimal.write number.toNat) = if number = 0 then none else some number := by
  have noSign : ∀ digit ∈ List.range 10, Text.Decimal.digitChar digit ≠ '+' := by decide
  obtain ⟨digit, more, small, digits⟩ := Text.Decimal.exists_digit number.toNat
  have fits : number.toNat ≤ 255 := Nat.le_of_lt_succ number.toNat_lt
  have read : Text.Decimal.readUpTo? 255 (Decimal.write number.toNat) = some number.toNat := by
    have whole := Text.Decimal.readDigits?_write number.toNat
    rw [digits] at whole ⊢
    unfold Text.Decimal.readUpTo?
    split
    · next sign => exact absurd (List.cons.inj sign).1 (noSign digit (List.mem_range.mpr small))
    · show (Text.Decimal.readDigits? (Text.Decimal.digitChar digit :: more)).filter _ = _
      rw [whole, Option.filter_some, if_pos (by simpa using fits)]
  rw [readInstance?, read, Option.filter_some]
  by_cases zero : number = 0
  · subst zero
    rfl
  · have positive : 0 < number.toNat := Nat.pos_of_ne_zero fun none => zero (UInt8.toNat_inj.mp none)
    rw [if_pos (by simpa using positive), if_neg zero, Option.map_some, UInt8.ofNat_toNat]

/-- **An object is read back from its text** unless its instance is zero. -/
theorem Eoj.ofText_toText (eoj : Eoj) :
    ofText eoj.toText = if eoj.instanceCode = 0 then .error (.badInstance "0") else .ok eoj := by
  have chars : eoj.toText.toList = eoj.classCode.toText.toList ++ ':' :: Decimal.write eoj.instanceCode.toNat := by
    simp [toText]
  have colonless : ':' ∉ eoj.classCode.toText.toList := by
    rw [ClassCode.toText, String.toList_ofList]
    exact Text.Hex.colon_not_mem_fixed
  have code : ClassCode.read? eoj.classCode.toText.toList = some eoj.classCode :=
    (Grammar.Typed.ofClassCode eoj.classCode).reads
  rw [ofText, chars, read]
  simp only [takeWhile_colon colonless, List.drop_left, code, readInstance?_write]
  by_cases zero : eoj.instanceCode = 0
  · have digit : String.ofList (Decimal.write (0 : UInt8).toNat) = "0" := by decide +kernel
    simp only [zero, if_true, digit]
  · simp only [zero, if_false]

/-! ## All texts -/

/-- **Properties and devices are read back from each of their texts.** A property is read back from its text if its
value is not empty. A text is read as a property if and only if it has two digits, a colon and one byte or more, and
then it is the text of this property but for the case of its digits. Every property, its value empty or not, and every
device is read back from its record, written as JSON and read again. An object is read back from its text, unless it has
instance 0, which is refused. -/
theorem texts_are_read_back :
    (∀ property : Property, Property.ofText? property.toText = some property ↔ property.edt ≠ [])
    ∧ (∀ text property, Property.ofText? text = some property ↔ PropertyText text ∧ property.toText = text.toUpper)
    ∧ (∀ text, (Property.ofText? text).isSome = true ↔ PropertyText text)
    ∧ (∀ property : Property, (Value.ofJson? property.toJson.compact).bind Property.ofJson? = some property)
    ∧ (∀ device : Endpoint, (Value.ofJson? device.toJson.compact).bind Endpoint.ofJson? = some device)
    ∧ ∀ eoj : Eoj, Eoj.ofText eoj.toText
      = if eoj.instanceCode = 0 then .error (.badInstance "0") else .ok eoj := by
  refine ⟨?_, fun text property => Property.ofText?_eq_some_iff, Property.isSome_ofText?_iff, ?_, ?_, Eoj.ofText_toText⟩
  · exact fun property => ⟨Property.edt_ne_nil_of_ofText?, Property.ofText?_toText⟩
  · intro property
    rw [Value.ofJson?_compact property.plain_toJson, Option.bind_some, Property.ofJson?_toJson]
  · intro device
    rw [Value.ofJson?_compact device.plain_toJson, Option.bind_some, Endpoint.ofJson?_toJson]

/-- Digits stand in either case, and an empty value is refused. -/
example : Property.ofText? "b0:4a" = some ⟨⟨0xB0⟩, [0x4A]⟩ ∧ Property.ofText? "b0:" = none := by decide

end DeviceConsole.Device
