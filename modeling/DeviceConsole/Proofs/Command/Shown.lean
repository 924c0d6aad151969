import DeviceConsole.Backend.State
import DeviceConsole.Proofs.Grammar.Lines

/-!
# `Proofs.Command.Shown` — what is shown can be typed

A value is shown by its name in the table, or in hexadecimal. Behind the code of its property a line may hold either,
and tries hexadecimal first. So two things have to fit: no name of the table can be read as a value in hexadecimal
(`isValueName_of_mem`), and a name is shown for the value alone that the same entry of the table gives it
(`shown_describeValue`).

* `IsValueName`, `IsPropertyName` — what a line can hold as the name of a value, or of a property with its value;
* `exists_valueOfAlias`, `exists_propertyOfAlias` — every name of the table stands for something;
* `Shown` — the texts that a value may be shown by;
* `eq_of_describeValue` — two values of a property are never shown alike;
* `shown_value_reads_back` — behind its code, what is shown of a value is read as this value.
-/

namespace DeviceConsole

open Device (ClassCode Epc Property edtText)
open Grammar

/-! ## The names in the table -/

namespace Device.PropertyTable

/-- A name that a line can hold behind a property code: one word, which is no value in hexadecimal. -/
structure IsValueName (name : String) : Prop where
  isWord : IsWord name
  noHex : readEdtText? name = none

variable {classCode : Option ClassCode} {epc : Epc} {name : String}

/-- The descriptions of a class are among those of the whole table. -/
theorem mem_table {description : Description} (h : description ∈ descriptions classCode) :
    description ∈ classes.flatMap ClassDescription.properties ++ common := by
  rcases List.mem_append.mp h with own | shared
  · refine List.mem_append_left _ (List.mem_flatMap.mpr ?_)
    cases found : classCode.bind findClass? with
    | none =>
      rw [found] at own
      cases own
    | some entry =>
      obtain ⟨code, -, listed⟩ := Option.bind_eq_some_iff.mp found
      rw [found] at own
      exact ⟨entry, List.mem_of_find?_eq_some listed, own⟩
  · exact List.mem_append_right _ shared

/-- A name in a description stands for a value. -/
theorem Description.exists_value (description : Description) (h : name ∈ description.values.map Prod.fst) :
    ∃ edt, description.value? name = some edt := by
  obtain ⟨value, mem, rfl⟩ := List.mem_map.mp h
  have found : (description.values.find? fun other => decide (other.1 = value.1)).isSome = true :=
    List.find?_isSome.mpr ⟨value, mem, decide_eq_true rfl⟩
  obtain ⟨first, isFirst⟩ := Option.isSome_iff_exists.mp found
  exact ⟨first.2, by rw [Description.value?, isFirst]; rfl⟩

/-- The names of the values of a property stand in the table. -/
theorem exists_value_of_mem (h : name ∈ valueAliases classCode epc) :
    ∃ description ∈ classes.flatMap ClassDescription.properties ++ common,
      ∃ value ∈ description.values, value.1 = name := by
  unfold valueAliases at h
  cases found : find? classCode epc with
  | none =>
    rw [found] at h
    cases h
  | some description =>
    rw [found] at h
    exact ⟨description, mem_table (List.mem_of_find?_eq_some found), List.mem_map.mp h⟩

/-- **No name of the table reads as hexadecimal.** -/
theorem isValueName_of_mem (h : name ∈ valueAliases classCode epc) : IsValueName name := by
  have table : ∀ description ∈ classes.flatMap ClassDescription.properties ++ common,
      ∀ value ∈ description.values, IsWord value.1 ∧ readEdtText? value.1 = none := by decide
  obtain ⟨description, listed, value, mem, rfl⟩ := exists_value_of_mem h
  obtain ⟨isWord, noHex⟩ := table description listed value mem
  exact ⟨isWord, noHex⟩

/-- Every name of a value stands for a value. -/
theorem exists_valueOfAlias (h : name ∈ valueAliases classCode epc) :
    ∃ edt, valueOfAlias? classCode epc name = some edt := by
  unfold valueAliases at h
  unfold valueOfAlias?
  cases found : find? classCode epc with
  | none =>
    rw [found] at h
    cases h
  | some description =>
    rw [found] at h
    exact description.exists_value h

/-- A name that a line can hold for a property with its value: one word that is no code, no option and no group. -/
structure IsPropertyName (name : String) : Prop where
  isWord : IsWord name
  noDash : name.toList.head? ≠ some '-'
  noAt : name.toList.head? ≠ some '@'
  noEpc : Epc.ofText? name = none
  noClass : ClassCode.ofText? name = none

theorem mem_propertyAliases (h : name ∈ propertyAliases classCode) :
    ∃ description ∈ descriptions classCode, name ∈ description.values.map Prod.fst :=
  List.mem_flatMap.mp ((mem_addAllNew.mp h).resolve_left List.not_mem_nil)

/-- **No name of the table is taken for a code, an option or a group.** -/
theorem isPropertyName_of_mem (h : name ∈ propertyAliases classCode) : IsPropertyName name := by
  have table : ∀ description ∈ classes.flatMap ClassDescription.properties ++ common,
      ∀ value ∈ description.values, IsWord value.1 ∧ value.1.toList.head? ≠ some '-'
        ∧ value.1.toList.head? ≠ some '@' ∧ Epc.ofText? value.1 = none ∧ ClassCode.ofText? value.1 = none := by decide
  obtain ⟨description, listed, named⟩ := mem_propertyAliases h
  obtain ⟨value, mem, rfl⟩ := List.mem_map.mp named
  obtain ⟨isWord, noDash, noAt, noEpc, noClass⟩ := table description (mem_table listed) value mem
  exact ⟨isWord, noDash, noAt, noEpc, noClass⟩

/-- Every name of a property stands for a property with a value. -/
theorem exists_propertyOfAlias (h : name ∈ propertyAliases classCode) :
    ∃ property, propertyOfAlias? classCode name = some property := by
  obtain ⟨description, listed, named⟩ := mem_propertyAliases h
  obtain ⟨edt, stands⟩ := description.exists_value named
  apply Option.isSome_iff_exists.mp
  rw [propertyOfAlias?, List.findSome?_isSome_iff]
  refine ⟨description, listed, ?_⟩
  rw [stands]
  rfl

/-- The properties that all classes share have codes below `A0`. -/
theorem find?_of_no_class (large : 0xA0 ≤ epc.value.toNat) : find? none epc = none := by
  have small : ∀ description ∈ common, description.epc.value.toNat < 0xA0 := by decide
  have shared : descriptions none = common := rfl
  rw [find?, shared, List.find?_eq_none]
  intro description listed
  rw [decide_eq_true_eq]
  rintro rfl
  exact absurd (small description listed) (Nat.not_lt_of_le large)

/-! ## What is shown of a value -/

/-- How a value is shown: by a name of its property that stands for it, or in hexadecimal if there is none. -/
inductive Shown (classCode : ClassCode) (property : Property) : String → Prop
  | named {name : String} : name ∈ valueAliases (some classCode) property.epc →
      valueOfAlias? (some classCode) property.epc name = some property.edt → Shown classCode property name
  | hex : (∀ name ∈ valueAliases (some classCode) property.epc,
      valueOfAlias? (some classCode) property.epc name ≠ some property.edt) →
      Shown classCode property (edtText property.edt)

theorem shown_describeValue (classCode : ClassCode) (property : Property) :
    Shown classCode property (describeValue classCode property) := by
  rw [describeValue]
  cases found : (valueAliases (some classCode) property.epc).find? fun name =>
      decide (valueOfAlias? (some classCode) property.epc name = some property.edt) with
  | none =>
    refine .hex fun name mem => ?_
    simpa using List.find?_eq_none.mp found name mem
  | some name => exact .named (List.mem_of_find?_eq_some found) (by simpa using List.find?_some found)

end Device.PropertyTable

/-! ## What is typed of a value -/

open Device.PropertyTable (Shown describeValue isValueName_of_mem shown_describeValue)

/-- A value as it is shown, behind the code of its property. -/
def shownText (classCode : ClassCode) (property : Property) : String :=
  property.epc.toText ++ ":" ++ describeValue classCode property

/-- The argument of a line stands for the property, in every directory with the names of the table. -/
def StandsFor (arg : PropertyArg) (classCode : ClassCode) (property : Property) : Prop :=
  ∀ directory : Directory, directory.valueOfAlias? = Device.PropertyTable.valueOfAlias? →
    directory.property (some classCode) arg = .ok property

/-- The whole line is one property argument, with a code and a value behind a colon. -/
structure TypesProperty (line : String) (epc value : String) (arg : PropertyArg) : Prop where
  tokens : marks (tokenize line) = [.word epc, .colon, .word value, .stop]
  matched : propertyNode.matchTokens (tokenize line) = some (.property arg, 3)

theorem TypesProperty.of_takes {epc value : String} {arg : PropertyArg} (isEpc : IsWord epc) (isValue : IsWord value)
    (takes : Takes propertyNode [.word epc, .colon, .word value, .stop] (.property arg) [.stop]) :
    TypesProperty (epc ++ ":" ++ value) epc value arg := by
  have tokens : marks (tokenize (epc ++ ":" ++ value)) = [.word epc, .colon, .word value, .stop] :=
    ((Spells.word isEpc).colon (.word isValue)).marks_tokenize
  obtain ⟨consumed, matched, left⟩ := takes _ tokens
  -- the end of the line alone is left, so three of the four tokens are taken
  have length : (tokenize (epc ++ ":" ++ value)).length = 4 := by
    rw [← length_marks, tokens]
    rfl
  have rest : (tokenize (epc ++ ":" ++ value)).length - consumed = 1 := by
    rw [← List.length_drop, ← length_marks, left]
    rfl
  obtain rfl : consumed = 3 := by omega
  exact ⟨tokens, matched⟩

/-- A text that a value may be shown by is typed for this value. -/
theorem typesProperty_of_shown {classCode : ClassCode} {property : Property} {text : String}
    (some_byte : property.edt ≠ []) (shown : Shown classCode property text) :
    ∃ arg, TypesProperty (property.epc.toText ++ ":" ++ text) property.epc.toText text arg
      ∧ StandsFor arg classCode property := by
  cases shown with
  | named listed stands =>
    obtain ⟨isWord, noHex⟩ := isValueName_of_mem listed
    refine ⟨.valueAlias property.epc text,
      .of_takes (Typed.ofEpc property.epc).isWord isWord (takes_valueAlias (.ofEpc property.epc) isWord noHex), ?_⟩
    intro directory builtin
    rw [Directory.property, builtin, stands]
  | hex =>
    have typed := @TypedProperty.takes ⟨.ofEpc property.epc, .ofEdt property.edt some_byte⟩ [.stop]
    refine ⟨.raw property.epc property.edt, .of_takes (Typed.ofEpc property.epc).isWord
      (Typed.ofEdt property.edt some_byte).isWord typed, fun directory _ => rfl⟩

/-- What is typed stands for one property. -/
theorem StandsFor.unique {arg : PropertyArg} {classCode : ClassCode} {property other : Property}
    (h : StandsFor arg classCode property) (h' : StandsFor arg classCode other) : property = other := by
  have first := h { Directory.empty with valueOfAlias? := Device.PropertyTable.valueOfAlias? } rfl
  rw [h' _ rfl] at first
  exact (Except.ok.inj first).symm

/-- **Two values of a property are never shown alike**, if both have a byte. -/
theorem eq_of_describeValue {classCode : ClassCode} {property other : Property} (code : property.epc = other.epc)
    (some_byte : property.edt ≠ []) (some_other : other.edt ≠ [])
    (same : describeValue classCode property = describeValue classCode other) : property = other := by
  obtain ⟨arg, typed, stands⟩ := typesProperty_of_shown some_byte (shown_describeValue classCode property)
  obtain ⟨arg', typed', stands'⟩ := typesProperty_of_shown some_other (shown_describeValue classCode other)
  -- the two make one line, and this line is one argument
  have one : arg' = arg := by
    have both := typed'.matched
    rw [← same, ← code, typed.matched] at both
    cases both
    rfl
  subst one
  exact stands.unique stands'

/-- **What is shown of a value reads back as this value.** For every class, property and value with a byte, the code
and what is shown of the value, be it a name or hexadecimal, make a line that is one property argument, and this
argument stands for that very property in the class. So two values of a property are never shown alike. -/
theorem shown_value_reads_back (classCode : ClassCode) (epc : Epc) {edt : List UInt8} (some_byte : edt ≠ []) :
    (∃ arg, TypesProperty (shownText classCode ⟨epc, edt⟩) epc.toText (describeValue classCode ⟨epc, edt⟩) arg
      ∧ StandsFor arg classCode ⟨epc, edt⟩)
    ∧ ∀ other, other ≠ [] → describeValue classCode ⟨epc, other⟩ = describeValue classCode ⟨epc, edt⟩ →
      other = edt := by
  obtain ⟨arg, typed, stands⟩ := typesProperty_of_shown some_byte (shown_describeValue classCode ⟨epc, edt⟩)
  refine ⟨⟨arg, typed, stands⟩, fun other some_other same => ?_⟩
  have one : (⟨epc, other⟩ : Property) = ⟨epc, edt⟩ := eq_of_describeValue rfl some_other some_byte same
  exact congrArg Property.edt one

/-- The operation mode of an air conditioner is shown by name, and typed by name at every site. -/
theorem shown_value_reads_back_heating :
    shownText ⟨0x0130⟩ ⟨⟨0xB0⟩, [0x43]⟩ = "B0:heating"
    ∧ (∃ arg, TypesProperty "B0:heating" "B0" "heating" arg
      ∧ ∀ backend : Backend, backend.directory.property (some ⟨0x0130⟩) arg = .ok ⟨⟨0xB0⟩, [0x43]⟩)
    ∧ describeValue ⟨0x0130⟩ ⟨⟨0xB0⟩, [0x43, 0x00]⟩ ≠ "heating" := by
  have shown : shownText ⟨0x0130⟩ ⟨⟨0xB0⟩, [0x43]⟩ = "B0:heating" := by decide +kernel
  have code : (⟨0xB0⟩ : Epc).toText = "B0" := by decide +kernel
  have name : describeValue ⟨0x0130⟩ ⟨⟨0xB0⟩, [0x43]⟩ = "heating" := by decide +kernel
  obtain ⟨⟨arg, typed, stands⟩, apart⟩ :=
    @shown_value_reads_back ⟨0x0130⟩ ⟨0xB0⟩ [0x43] (List.cons_ne_nil _ _)
  rw [shown, code, name] at typed
  refine ⟨shown, ⟨arg, typed, fun backend => stands backend.directory rfl⟩, fun same => ?_⟩
  rw [← name] at same
  have equal := apart [0x43, 0x00] (List.cons_ne_nil _ _) same
  cases equal

end DeviceConsole
