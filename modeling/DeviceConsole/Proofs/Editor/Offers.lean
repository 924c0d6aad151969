import DeviceConsole.Proofs.Command.Addressed
import DeviceConsole.Proofs.Command.Shown
import DeviceConsole.Proofs.Editor.Completion
import DeviceConsole.Proofs.Editor.Leaves
import DeviceConsole.Proofs.Reachable

/-!
# `Proofs.Editor.Offers` — whether names that are offered can be read

What is offered for a property or a value depends on a class, and so does what a name is read as. The builder takes the
class of the target that was resolved; the editor takes the first class that a word of the line names, by its code or
as an alias. Within an argument the two agree, since no word of an address is an alias and no alias is a class code.
Behind it they need not: a property code in front of the cursor may be an alias itself.

* `hint_of_addressed` — the words of an argument name the class of its target and no other;
* `offered_behind_set`, `offered_behind_code`, `offered_behind_listing` — the words that are offered;
* `parse_set_property`, `parse_listing_property` — the lines with one more word;
* `offered_names_resolve` — **which names that are offered can be read**: all of them, but those behind a code that is
  an alias, if the device names no class.
-/

namespace DeviceConsole.Editor

open Device (ClassCode Endpoint Epc Property)
open Device.PropertyTable (IsPropertyName descriptions exists_propertyOfAlias exists_valueOfAlias find?_of_no_class
  isPropertyName_of_mem isValueName_of_mem knownEpcs propertyAliases propertyOfAlias? valueAliases valueOfAlias?)
open Grammar

variable {backend : Backend} {line name : String} {tokens : List Token} {argument : List Mark} {arg : DeviceArg}
  {target : Target}

/-! ## Offered words -/

/-- The words that are offered behind a text. -/
def offeredWords (backend : Backend) (text : String) : List String := (candidates backend text).2.map Candidate.value

theorem mem_foldl_addCandidate {found words : List Candidate} :
    name ∈ (words.foldl addCandidate found).map Candidate.value
      ↔ name ∈ found.map Candidate.value ∨ name ∈ words.map Candidate.value := by
  induction words generalizing found with
  | nil => simp
  | cons candidate rest ih =>
    rw [List.foldl_cons, ih, List.map_cons, List.mem_cons]
    rcases addCandidate_cases found candidate with ⟨known, step⟩ | ⟨-, step⟩
    · rw [step]
      constructor
      · rintro (before | later)
        · exact .inl before
        · exact .inr (.inr later)
      · rintro (before | rfl | later)
        · exact .inl before
        · exact .inl known
        · exact .inr later
    · rw [step, List.map_append, List.map_singleton, List.mem_append, List.mem_singleton, or_assoc]

/-- A beginning of a line with the marks, and with a place for a word behind them. -/
structure Begins (line : String) (front : List Mark) : Prop where
  apart : Apart line.toList
  marked : marks (tokenize line) = front ++ [.stop]

/-- With no word typed yet, everything is offered that the grammar and the site allow. -/
theorem mem_offeredWords {front : List Mark} (begins : Begins line front) {expected : List Expected}
    (walk : (commandGrammar.candidates (tokenize line)).2 = expected) :
    name ∈ offeredWords backend line
      ↔ ∃ leaf ∈ expected, name ∈ (expand backend (tokenize line) leaf).map Candidate.value := by
  have all : (wordsAfter backend (tokenize line)).filter
      (fun candidate => Text.startsWithIgnoringCase candidate.value "") = wordsAfter backend (tokenize line) :=
    List.filter_eq_self.mpr fun candidate _ => startsWith_empty candidate.value
  rw [offeredWords, candidates_of_split backend (splitLastWord_of_apart begins.apart), all, mem_foldl_addCandidate,
    wordsAfter, walk, List.map_flatMap, List.mem_flatMap]
  simp

theorem map_value_plain (words : List String) : (plainCandidates words).map Candidate.value = words := by
  rw [plainCandidates, List.map_map]
  exact List.map_id words

/-- The codes that are offered for properties of a class. -/
def codeWords (classCode : Option ClassCode) : List String :=
  ((classCode.map knownEpcs).getD []).map Epc.toText

section Leaves

variable {classCode : Option ClassCode} (hint : classHint backend tokens = classCode)
include hint

theorem words_code : (expand backend tokens ⟨.epc, none⟩).map Candidate.value = codeWords classCode := by
  show (expandKind backend tokens .epc).map Candidate.value = _
  simp only [expandKind, hint]
  cases classCode with
  | none => rfl
  | some code =>
    rw [List.map_map]
    rfl

theorem words_property :
    (expand backend tokens ⟨.propertyAlias, none⟩).map Candidate.value = propertyAliases classCode := by
  show (expandKind backend tokens .propertyAlias).map Candidate.value = _
  simp only [expandKind, hint]
  exact map_value_plain _

theorem words_value {epc : Epc} (code : epcBeforeColon tokens = some epc) :
    (expand backend tokens ⟨.propertyValueAlias, none⟩).map Candidate.value = valueAliases classCode epc := by
  show (expandKind backend tokens .propertyValueAlias).map Candidate.value = _
  simp only [expandKind, hint, code]
  exact map_value_plain _

end Leaves

/-! ## The class that a line names -/

/-- The class of the device that a word is an alias of. -/
def classOfAlias? (backend : Backend) (word : String) : Option ClassCode :=
  (backend.aliases.get? word).map fun device => device.eoj.classCode

/-- Aliases follow the rules for aliases. -/
def GoodAliases (backend : Backend) : Prop :=
  ∀ name device, backend.directory.alias? name = some device → AliasWord name

/-- A word that is neither a class code nor an alias names no class. -/
theorem classOfMark?_word {word : String} (noCode : ClassCode.ofText? word = none) :
    classOfMark? backend (.word word) = classOfAlias? backend word := by
  rw [classOfMark?, noCode]
  rfl

theorem classOfAlias?_eq_none (good : GoodAliases backend) {word : String} (noAlias : ¬ AliasWord word) :
    classOfAlias? backend word = none := by
  rw [classOfAlias?, Option.map_eq_none_iff]
  cases bound : backend.aliases.get? word with
  | none => rfl
  | some device => exact absurd (good word device bound) noAlias

/-- An object names its class. -/
theorem hint_of_object (object : TypedObject) :
    object.front.findSome? (classOfMark? backend) = some object.classCode.value := by
  have named : classOfMark? backend (.word object.classCode.text) = some object.classCode.value := by
    rw [classOfMark?, object.classCode.reads]
    rfl
  obtain ⟨classCode, _ | number⟩ := object
  · rw [TypedObject.front, List.findSome?_cons, named]
  · rw [TypedObject.front, List.findSome?_cons, named]

/-- An address names no class. -/
theorem hint_of_address (good : GoodAliases backend) (ip : Typed Net.IpAddress.ofText?) :
    classOfMark? backend (.word ip.text) = none := by
  rw [classOfMark?_word ((@noObject_ip ip []).2 ip.text rfl)]
  apply classOfAlias?_eq_none good
  intro isAlias
  have noAddress := isAlias.no_address
  rw [ip.reads] at noAddress
  cases noAddress

/-- **The words of an argument name the class of its target** and no other. -/
theorem hint_of_addressed (good : GoodAliases backend) (addressed : Addressed backend.directory argument arg target) :
    argument.findSome? (classOfMark? backend) = target.classCode? := by
  cases addressed with
  | place device =>
    rcases device with ⟨ip, _ | object⟩ | object
    · rw [TypedDevice.front, List.findSome?_cons, hint_of_address good ip]
      rfl
    · rw [TypedDevice.front, List.findSome?_cons, hint_of_address good ip]
      exact hint_of_object object
    · exact hint_of_object object
  | @group name at_sign =>
    obtain ⟨rest, chars⟩ := List.head?_eq_some_iff.mp at_sign
    have noAlias : ¬ AliasWord name := by
      intro isAlias
      obtain ⟨first, others, shape, -, -, noAt⟩ := isAlias.first
      rw [shape] at at_sign
      exact noAt (Option.some.inj at_sign)
    rw [List.findSome?_cons, classOfMark?_word (classCode_of_head chars (by decide)),
      classOfAlias?_eq_none good noAlias]
    rfl
  | @aliased name device bound =>
    have isBound : backend.aliases.get? name = some device := bound.bound
    rw [List.findSome?_cons, classOfMark?_word bound.word.noClass, classOfAlias?, isBound]
    rfl

/-- The class that the beginning of a line names, if a word stands in front of the argument. -/
theorem classHint_of_begins (good : GoodAliases backend) (addressed : Addressed backend.directory argument arg target)
    {keyword : String} {behind : List Mark} (begins : Begins line (.word keyword :: argument ++ behind)) :
    classHint backend (tokenize line) = target.classCode?.or (behind.findSome? (classOfMark? backend)) := by
  have cut : (marks (tokenize line)).drop 1 = argument ++ (behind ++ [.stop]) := by
    rw [begins.marked, List.cons_append, List.cons_append, List.append_assoc]
    rfl
  have stop : [Mark.stop].findSome? (classOfMark? backend) = none := rfl
  rw [classHint_eq, cut, List.findSome?_append, List.findSome?_append, hint_of_addressed good addressed, stop,
    Option.or_none]

/-- With nothing behind its device, a line names the class of the target. -/
theorem classHint_of_device (good : GoodAliases backend) (addressed : Addressed backend.directory argument arg target)
    {keyword : String} (begins : Begins line (.word keyword :: argument)) :
    classHint backend (tokenize line) = target.classCode? := by
  have own := @classHint_of_begins _ _ _ _ _ good addressed keyword [] (by rwa [List.append_nil])
  rwa [List.findSome?_nil, Option.or_none] at own

/-! ## What is offered behind a device -/

section Offered

variable (good : GoodAliases backend) (addressed : Addressed backend.directory argument arg target)
include good addressed

/-- Behind the device of a writing the codes and the names of its class are offered. -/
theorem offered_behind_set (begins : Begins line (.word "set" :: argument)) :
    name ∈ offeredWords backend line
      ↔ name ∈ codeWords target.classCode? ∨ name ∈ propertyAliases target.classCode? := by
  have hint := classHint_of_device good addressed begins
  rw [mem_offeredWords begins (expected_behind_set (addressed.takes noObject_stop) begins.marked)]
  simp only [List.mem_cons, List.not_mem_nil, or_false, exists_eq_or_imp, exists_eq_left, words_code hint,
    words_property hint]

/-- Behind the device of a listing its options are offered too. -/
theorem offered_behind_listing {keyword : String} (listing : keyword = "devices" ∨ keyword = "list")
    (begins : Begins line (.word keyword :: argument)) :
    name ∈ offeredWords backend line
      ↔ name ∈ ["-all", "-props", "-group-by"] ∨ name ∈ codeWords target.classCode?
        ∨ name ∈ propertyAliases target.classCode? := by
  have hint := classHint_of_device good addressed begins
  have option (label : String) :
      (expand backend (tokenize line) ⟨.listOption, some label⟩).map Candidate.value = [label] := rfl
  rw [mem_offeredWords begins (expected_behind_listing listing (addressed.takes noObject_stop) begins.marked)]
  simp only [List.mem_cons, List.not_mem_nil, or_false, exists_eq_or_imp, exists_eq_left, words_code hint,
    words_property hint, option, or_assoc]

/-- **Behind a property code the names of its values are offered**, in the class of the device if it names one, else in
the class of the device that the code is an alias of. -/
theorem offered_behind_code (epc : Typed Epc.ofText?)
    (begins : Begins line (.word "set" :: argument ++ [.word epc.text, .colon])) :
    name ∈ offeredWords backend line
      ↔ name ∈ valueAliases (target.classCode?.or (classOfAlias? backend epc.text)) epc.value := by
  have named : [Mark.word epc.text, .colon].findSome? (classOfMark? backend) = classOfAlias? backend epc.text := by
    rw [List.findSome?_cons, classOfMark?_word ((@noObject_epc epc []).2 epc.text rfl)]
    cases classOfAlias? backend epc.text <;> rfl
  have hint := classHint_of_begins good addressed begins
  rw [named] at hint
  have marked : marks (tokenize line) = .word "set" :: (argument ++ [.word epc.text, .colon, .stop]) := by
    rw [begins.marked, List.append_assoc]
    rfl
  have code : epcBeforeColon (tokenize line) = some epc.value := by
    rw [epcBeforeColon_eq, marked, epcBeforeStop?]
    simp [epc.reads]
  have values : (expand backend (tokenize line) ⟨.propertyValue, none⟩).map Candidate.value = [] := rfl
  rw [mem_offeredWords begins (expected_behind_code epc (addressed.takes (noObject_epc epc)) marked)]
  simp only [List.mem_cons, List.not_mem_nil, or_false, exists_eq_or_imp, exists_eq_left, values, false_or,
    words_value hint code]

end Offered

/-! ## Lines with one more word -/

section Lines

variable {directory : Directory} {behind : List Mark} {own : PropertyArg}

/-- A word that is a name of the table is read as the name of a property. -/
theorem takes_propertyName (named : IsPropertyName name) {after : List Mark} :
    Takes propertyNode (.word name :: after) (.property (.aliased name)) after := by
  have noCode : Refuses (.seq [epcNode, valueNode]) (.word name :: after) := Refuses.seq_head (refuses_epc named.noEpc)
  have read : Conversion.propertyAlias .propertyAlias (.word name) = some (.name .propertyAlias name) := by
    obtain ⟨first, rest, chars⟩ := List.exists_cons_of_ne_nil named.isWord.1
    have noDash : (first == '-') = false := by
      rw [beq_eq_false_iff_ne]
      rintro rfl
      exact named.noDash (by rw [chars]; rfl)
    have noAt : (first == '@') = false := by
      rw [beq_eq_false_iff_ne]
      rintro rfl
      exact named.noAt (by rw [chars]; rfl)
    rw [Conversion.propertyAlias, Conversion.ofWord, chars]
    simp [noDash, noAt, named.noEpc]
  exact Takes.composite (.alt_tail noCode (.alt_head (takes_leaf read))) rfl

/-- **A writing with one property** gives what its property gives in the class of the target. -/
theorem parse_set_property (marked : marks (tokenize line) = .word "set" :: (argument ++ (behind ++ [.stop])))
    (device : Takes deviceNode (argument ++ (behind ++ [.stop])) (.device arg) (behind ++ [.stop]))
    (property : Takes propertyNode (behind ++ [.stop]) (.property own) [.stop]) (some_mark : behind ≠ [])
    (stands : directory.target arg = .ok target) :
    directory.parse line
      = (directory.property target.classCode? own).map fun property => .set ⟨target, [property]⟩ := by
  have shorter : [Mark.stop].length < (behind ++ [Mark.stop]).length := by
    have some_length := List.length_pos_iff.mpr some_mark
    rw [List.length_append]
    omega
  have many : TakesMany propertyNode (behind ++ [.stop]) [.property own] [.stop] :=
    .more property shorter (.done refuses_property_stop)
  rw [parse_set_of_marks marked device many rfl (List.cons_ne_nil _ _) stands]
  simp only [Directory.properties, bind, Except.bind]
  cases directory.property target.classCode? own <;> rfl

/-- A listing of a device with one name of a property. -/
theorem devices_property (stands : directory.target arg = .ok target) :
    directory.devices [.device arg, .property own]
      = (directory.property target.classCode? own).map fun property =>
          { target := some target, properties := [property] } := by
  rw [Directory.devices, List.foldlM_cons, addItem_device stands]
  show Except.map _ (Except.bind ((directory.property target.classCode? own).map _) _) = _
  cases directory.property target.classCode? own <;> rfl

/-- **A listing with one name of a property** gives what the name gives in the class of the target. -/
theorem parse_listing_property {keyword : String} (listing : keyword = "devices" ∨ keyword = "list")
    (marked : marks (tokenize line) = .word keyword :: (argument ++ [.word name, .stop]))
    (device : Takes deviceNode (argument ++ [.word name, .stop]) (.device arg) [.word name, .stop])
    (named : IsPropertyName name) (stands : directory.target arg = .ok target) :
    directory.parse line
      = (directory.property target.classCode? (.aliased name)).map fun property =>
          .devices { target := some target, properties := [property] } := by
  have noOption : ∀ label : String, label.toList.head? = some '-' → name ≠ label := by
    rintro label dash rfl
    exact named.noDash dash
  have item : Takes itemNode [.word name, .stop] (.property (.aliased name)) [.stop] :=
    .alt_tail (refuses_keyword (noOption "-all" rfl)) (.alt_tail (refuses_keyword (noOption "-props" rfl))
      (.alt_tail (.composite (.seq_head (refuses_keyword (noOption "-group-by" rfl))))
        (.alt_head (takes_propertyName named))))
  have many : TakesMany itemNode [.word name, .stop] [.property (.aliased name)] [.stop] :=
    .more item (by simp) (.done (refuses_item_of_no_word (by simp)))
  rw [parse_listing_of_marks listing marked device.optional many rfl]
  show (directory.devices [.device arg, .property (.aliased name)]).map _ = _
  rw [devices_property stands]
  cases directory.property target.classCode? (.aliased name) <;> rfl

end Lines

/-! ## Names that are offered -/

/-- In the class the name stands for the property, by the description of this property. -/
def DescribedBy (classCode : Option ClassCode) (name : String) (property : Property) : Prop :=
  ∃ description ∈ descriptions classCode, description.epc = property.epc ∧ description.value? name = some property.edt

theorem describedBy_of_alias {classCode : Option ClassCode} {property : Property}
    (stands : propertyOfAlias? classCode name = some property) : DescribedBy classCode name property := by
  obtain ⟨description, listed, found⟩ := List.exists_of_findSome?_eq_some stands
  obtain ⟨edt, value, rfl⟩ := Option.map_eq_some_iff.mp found
  exact ⟨description, listed, rfl, value⟩

theorem describedBy_of_value {classCode : Option ClassCode} {epc : Epc} {edt : List UInt8}
    (stands : valueOfAlias? classCode epc name = some edt) : DescribedBy classCode name ⟨epc, edt⟩ := by
  obtain ⟨description, found, value⟩ := Option.bind_eq_some_iff.mp stands
  have code := List.find?_some found
  exact ⟨description, List.mem_of_find?_eq_some found, of_decide_eq_true code, value⟩

/-- At every site a name of a property stands for what the table says. -/
theorem exists_property_of_name (backend : Backend) {classCode : Option ClassCode}
    (mem : name ∈ propertyAliases classCode) :
    ∃ property, DescribedBy classCode name property
      ∧ backend.directory.property classCode (.aliased name) = .ok property := by
  obtain ⟨property, found⟩ := exists_propertyOfAlias mem
  refine ⟨property, describedBy_of_alias found, ?_⟩
  have same : backend.directory.propertyOfAlias? classCode name = some property := found
  rw [Directory.property, same]

/-- So does a name of a value. -/
theorem exists_property_of_value (backend : Backend) {classCode : Option ClassCode} {epc : Epc}
    (mem : name ∈ valueAliases classCode epc) :
    ∃ edt, DescribedBy classCode name ⟨epc, edt⟩
      ∧ backend.directory.property classCode (.valueAlias epc name) = .ok ⟨epc, edt⟩ := by
  obtain ⟨edt, found⟩ := exists_valueOfAlias mem
  refine ⟨edt, describedBy_of_value found, ?_⟩
  have same : backend.directory.valueOfAlias? classCode epc name = some edt := found
  rw [Directory.property, same]

/-- The editor takes a property code for an alias: the device names no class, and the code is an alias. -/
def Misled (backend : Backend) (target : Target) (code : String) : Prop :=
  target.classCode? = none ∧ (backend.aliases.get? code).isSome = true

/-- If it does not, it has the class of the target. -/
theorem hint_of_not_misled {code : String} (h : ¬ Misled backend target code) :
    target.classCode?.or (classOfAlias? backend code) = target.classCode? := by
  cases own : target.classCode? with
  | some classCode => rfl
  | none =>
    have unbound : backend.aliases.get? code = none := by
      rw [← Option.not_isSome_iff_eq_none]
      exact fun bound => h ⟨own, bound⟩
    rw [classOfAlias?, unbound]
    rfl

/-- An alias starts with no digit, so a property code that is one is none of those that all classes share. -/
theorem find?_of_misled (good : GoodAliases backend) (epc : Typed Epc.ofText?) (h : Misled backend target epc.text) :
    Device.PropertyTable.find? none epc.value = none := by
  obtain ⟨device, bound⟩ := Option.isSome_iff_exists.mp h.2
  obtain ⟨first, rest, shape, digit, -, -⟩ := (good epc.text device bound).first
  obtain ⟨high, low, chars, -, -, decimal⟩ := chars_of_epc epc
  rw [shape] at chars
  cases chars
  have large : 0xA0 ≤ epc.value.value := by
    apply UInt8.not_lt.mp
    rw [← decimal, digit]
    simp
  exact find?_of_no_class (UInt8.le_iff_toNat_le.mp large)

section Names

variable (addressed : Addressed backend.directory argument arg target)
  (stands : backend.directory.target arg = .ok target)
include addressed stands

/-- **The name of a property makes a writing.** -/
theorem parse_set_name (begins : Begins line (.word "set" :: argument))
    (mem : name ∈ propertyAliases target.classCode?) :
    ∃ property, DescribedBy target.classCode? name property
      ∧ backend.directory.parse (line ++ name) = .ok (.set ⟨target, [property]⟩) := by
  have named := isPropertyName_of_mem mem
  obtain ⟨property, described, meant⟩ := exists_property_of_name backend mem
  refine ⟨property, described, ?_⟩
  have marked := marks_append_word begins.apart named.isWord begins.marked
  have device := @Addressed.takes _ _ _ _ addressed [.word name, .stop] (noObject_word named.noClass)
  have property : Takes propertyNode [.word name, .stop] (.property (.aliased name)) [.stop] := takes_propertyName named
  rw [@parse_set_property _ _ _ _ _ [.word name] _ marked device property (by simp) stands, meant]
  rfl

/-- **The name of a property makes a listing.** -/
theorem parse_listing_name {keyword : String} (listing : keyword = "devices" ∨ keyword = "list")
    (begins : Begins line (.word keyword :: argument)) (mem : name ∈ propertyAliases target.classCode?) :
    ∃ property, DescribedBy target.classCode? name property
      ∧ backend.directory.parse (line ++ name)
        = .ok (.devices { target := some target, properties := [property] }) := by
  have named := isPropertyName_of_mem mem
  obtain ⟨property, described, meant⟩ := exists_property_of_name backend mem
  refine ⟨property, described, ?_⟩
  have marked := marks_append_word begins.apart named.isWord begins.marked
  have device := @Addressed.takes _ _ _ _ addressed [.word name, .stop] (noObject_word named.noClass)
  rw [parse_listing_property listing marked device named stands, meant]
  rfl

/-- **The name of a value makes what it is in the class of the target.** -/
theorem parse_set_value (epc : Typed Epc.ofText?)
    (begins : Begins line (.word "set" :: argument ++ [.word epc.text, .colon])) {classCode : Option ClassCode}
    (mem : name ∈ valueAliases classCode epc.value) :
    backend.directory.parse (line ++ name)
      = (backend.directory.property target.classCode? (.valueAlias epc.value name)).map fun property =>
          .set ⟨target, [property]⟩ := by
  obtain ⟨isWord, noHex⟩ := isValueName_of_mem mem
  have marked : marks (tokenize (line ++ name))
      = .word "set" :: (argument ++ ([.word epc.text, .colon, .word name] ++ [.stop])) := by
    rw [marks_append_word begins.apart isWord begins.marked, List.append_assoc]
    rfl
  have device := @Addressed.takes _ _ _ _ addressed [.word epc.text, .colon, .word name, .stop] (noObject_epc epc)
  exact parse_set_property marked device (takes_valueAlias epc isWord noHex) (by simp) stands

end Names

/-! ## Sites -/

theorem goodAliases_of_reaches {start : Backend} {entries : List DeviceEntry}
    (accepted : Backend.ofEntries entries = .ok start) (reached : Reaches start backend) : GoodAliases backend :=
  fun name device bound =>
    aliasWord_of_checkAlias (((sound_of_ofEntries accepted).changes reached.changes).aliases name device bound).2

/-- An argument of a line that is accepted and resolved addresses its target. -/
theorem addressed_of_begins (good : GoodAliases backend) {front : List Mark} (begins : Begins line front)
    (within : argument ⊆ front) (isDevice : Takes deviceNode (argument ++ [.stop]) (.device arg) [.stop])
    (stands : backend.directory.target arg = .ok target) : Addressed backend.directory argument arg target := by
  obtain ⟨own, same, form⟩ := deviceForm_of_took (took_of_takes isDevice)
  cases same
  refine addressed_of_form form (fun text mem => ?_) good stands
  apply @isWord_of_mem_marks line
  rw [begins.marked]
  exact List.mem_append_left _ (within mem)

/-- **Names that are offered can be read, but for one case.** At every site that lines reach, behind every device that
a line can hold there and the site resolves: behind `set` and the device, and behind `devices` or `list` and the device,
the names of properties that are offered are those of the class of the target, and each of them makes a command with a
property that this class describes under the name. Behind `set`, the device and the code of a property with its colon
the same holds of the names of values, if the code is no alias or the device names a class. Else the names of the class
of another device are offered, and none of them can be read. -/
theorem offered_names_resolve {start : Backend} {entries : List DeviceEntry}
    (accepted : Backend.ofEntries entries = .ok start) (reached : Reaches start backend)
    (isDevice : Takes deviceNode (argument ++ [.stop]) (.device arg) [.stop])
    (stands : backend.directory.target arg = .ok target) :
    (∀ line, Begins line (.word "set" :: argument) →
      (∀ name, name ∈ offeredWords backend line
        ↔ name ∈ codeWords target.classCode? ∨ name ∈ propertyAliases target.classCode?)
      ∧ ∀ name ∈ propertyAliases target.classCode?, ∃ property, DescribedBy target.classCode? name property
        ∧ backend.directory.parse (line ++ name) = .ok (.set ⟨target, [property]⟩))
    ∧ (∀ keyword line, keyword = "devices" ∨ keyword = "list" → Begins line (.word keyword :: argument) →
      (∀ name, name ∈ offeredWords backend line
        ↔ name ∈ ["-all", "-props", "-group-by"] ∨ name ∈ codeWords target.classCode?
          ∨ name ∈ propertyAliases target.classCode?)
      ∧ ∀ name ∈ propertyAliases target.classCode?, ∃ property, DescribedBy target.classCode? name property
        ∧ backend.directory.parse (line ++ name)
          = .ok (.devices { target := some target, properties := [property] }))
    ∧ ∀ (epc : Typed Epc.ofText?) line, Begins line (.word "set" :: argument ++ [.word epc.text, .colon]) →
      (∀ name, name ∈ offeredWords backend line
        ↔ name ∈ valueAliases (target.classCode?.or (classOfAlias? backend epc.text)) epc.value)
      ∧ ∀ name ∈ offeredWords backend line,
        (¬ Misled backend target epc.text → ∃ edt, DescribedBy target.classCode? name ⟨epc.value, edt⟩
          ∧ backend.directory.parse (line ++ name) = .ok (.set ⟨target, [⟨epc.value, edt⟩]⟩))
        ∧ (Misled backend target epc.text →
          backend.directory.parse (line ++ name) = .error (.lookupFailure (.valueAlias name epc.value []))) := by
  have good := goodAliases_of_reaches accepted reached
  refine ⟨?_, ?_, ?_⟩
  · intro line begins
    have addressed := addressed_of_begins good begins (List.subset_cons_self _ _) isDevice stands
    refine ⟨fun name => offered_behind_set good addressed begins, fun name mem => ?_⟩
    exact parse_set_name addressed stands begins mem
  · intro keyword line listing begins
    have addressed := addressed_of_begins good begins (List.subset_cons_self _ _) isDevice stands
    refine ⟨fun name => offered_behind_listing good addressed listing begins, fun name mem => ?_⟩
    exact parse_listing_name addressed stands listing begins mem
  · intro epc line begins
    have within : argument ⊆ .word "set" :: argument ++ [.word epc.text, .colon] := fun mark mem => by simp [mem]
    have addressed := addressed_of_begins good begins within isDevice stands
    refine ⟨fun name => offered_behind_code good addressed epc begins, fun name offered => ?_⟩
    have mem := (offered_behind_code good addressed epc begins).mp offered
    have parsed := parse_set_value addressed stands epc begins mem
    refine ⟨fun notMisled => ?_, fun misled => ?_⟩
    · rw [hint_of_not_misled notMisled] at mem
      obtain ⟨edt, described, meant⟩ := exists_property_of_value backend mem
      rw [meant] at parsed
      exact ⟨edt, described, parsed⟩
    -- the code is none of those that all classes share, so without a class no name stands for a value of it
    · have unknown := find?_of_misled good epc misled
      have noValue : backend.directory.valueOfAlias? none epc.value name = none := by
        show (Device.PropertyTable.find? none epc.value).bind _ = none
        rw [unknown]
        rfl
      have noNames : backend.directory.valueAliases none epc.value = [] := by
        show ((Device.PropertyTable.find? none epc.value).map _).getD [] = []
        rw [unknown]
        rfl
      rw [misled.1, Directory.property, noValue, noNames] at parsed
      exact parsed

/-- The site of one air conditioner, where its alias is the code of its operation mode. -/
def siteOfCodeAlias : Backend := ((siteOfOne.lineOn 1 "discover").2.lineOn 2 "alias B0 10.0.0.1 0130:1").2

/-- Behind the address alone the modes of the air conditioner are offered and cannot be read; the values of its
operation status can. -/
theorem offered_names_resolve_modes :
    Reaches siteOfOne siteOfCodeAlias
    ∧ "cooling" ∈ offeredWords siteOfCodeAlias "set 10.0.0.1 B0:"
    ∧ siteOfCodeAlias.directory.parse ("set 10.0.0.1 B0:" ++ "cooling")
      = .error (.lookupFailure (.valueAlias "cooling" ⟨0xB0⟩ []))
    ∧ "on" ∈ offeredWords siteOfCodeAlias "set 10.0.0.1 80:"
    ∧ ∃ edt, siteOfCodeAlias.directory.parse ("set 10.0.0.1 80:" ++ "on")
      = .ok (.set ⟨.device ⟨some (.v4 ⟨10, 0, 0, 1⟩), none, none⟩, [⟨⟨0x80⟩, edt⟩]⟩) := by
  have accepted : Backend.ofEntries [⟨"10.0.0.1", "0130:1", ["80:30"]⟩] = .ok siteOfOne := rfl
  have reached : Reaches siteOfOne siteOfCodeAlias := .line 2 _ (.line 1 _ .refl)
  have isDevice := @TypedDevice.takes (.address (.ofDotted ⟨10, 0, 0, 1⟩) none) [.stop] (.of_noObject noObject_stop)
  obtain ⟨-, -, values⟩ := offered_names_resolve accepted reached isDevice (target_place _ _)
  obtain ⟨modes, readModes⟩ := values (.ofEpc ⟨0xB0⟩) "set 10.0.0.1 B0:" ⟨by decide, by decide +kernel⟩
  obtain ⟨states, readStates⟩ := values (.ofEpc ⟨0x80⟩) "set 10.0.0.1 80:" ⟨by decide, by decide +kernel⟩
  have cooling := (modes "cooling").mpr (by decide +kernel)
  have on := (states "on").mpr (by decide +kernel)
  obtain ⟨edt, -, read⟩ := (readStates "on" on).1 (fun misled => absurd misled.2 (by decide +kernel))
  exact ⟨reached, cooling, (readModes "cooling" cooling).2 ⟨rfl, by decide +kernel⟩, on, edt, read⟩

end DeviceConsole.Editor
