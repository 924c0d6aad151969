import DeviceConsole.Proofs.Grammar.Lines

/-!
# `Proofs.Command.Written` — the line of a command

`Command.words` are the words of a command in the documented order, with options last, and `Command.written` is
the line that they make. Not every command can be written: a partial address without address and class has no
words, a group has to exist, and so on (`Command.Writable`).

A list of devices has a second limit. The grammar reads as much of a device as it can, so an address alone in
front of a class alone is **one** device. `Command.Separable` excludes that; without it two commands have one
line, and no reader could tell them apart.

* `Target.takes`, `takesMany_properties` — what the grammar makes of written arguments;
* `Directory.specifier_ofSpecifier`, `Directory.properties_raw` — what the builder makes of the result.
-/

namespace DeviceConsole

open Device (Criteria Epc Property Specifier checkAlias checkGroup)
open Grammar

/-! ## The words of a command -/

/-- The words of a command. A listing has many written forms, of which only the command word is given here. -/
def Command.words : Command → List String
  | discover => ["discover"]
  | devices _ => ["devices"]
  | get command =>
    ["get", command.target.toText] ++ command.epcs.map Epc.toText ++
      if command.skipValidation then ["-skip-validation"] else []
  | set command => ["set", command.target.toText] ++ command.properties.map Property.toText
  | update command =>
    ["update"] ++ (command.target.map Target.toText).toList ++ if command.force then ["-force"] else []
  | aliases .list => ["alias"]
  | aliases (.get name) => ["alias", name]
  | aliases (.bind name criteria) =>
    ["alias", name, criteria.device.toText] ++ criteria.properties.map Property.toText
  | aliases (.delete name) => ["alias", "-delete", name]
  | group (.add name members) => ["group", "add", name] ++ members.map Specifier.toText
  | group (.remove name members) => ["group", "remove", name] ++ members.map Specifier.toText
  | group (.delete name) => ["group", "delete", name]
  | group (.list name) => ["group", "list"] ++ name.toList
  | debug none => ["debug"]
  | debug (some enabled) => ["debug", if enabled then "on" else "off"]
  | help topic => ["help"] ++ topic.toList
  | quit => ["quit"]

/-- The line of a command. -/
def Command.written (command : Command) : String := " ".intercalate command.words

/-! ## What can be written -/

/-- An IPv4 address or a class, and an instance number, which is not zero, only with a class. -/
def Device.Specifier.Writable (specifier : Specifier) : Prop :=
  (specifier.ip.isSome ∨ specifier.classCode.isSome) ∧
  (∀ ip ∈ specifier.ip, ∃ address, ip = .v4 address) ∧
  ∀ number ∈ specifier.instanceCode, specifier.classCode.isSome ∧ number ≠ 0

theorem Device.Specifier.Writable.numbered {specifier : Specifier} (h : specifier.Writable) :
    ∀ number ∈ specifier.instanceCode, number ≠ 0 :=
  fun number mem => (h.2.2 number mem).2

/-- A group name that is one word. -/
def GroupWord (name : String) : Prop := IsWord name ∧ checkGroup name = .ok ()

/-- Properties whose values have digits. -/
def HaveValues (properties : List Property) : Prop := ∀ property ∈ properties, property.edt ≠ []

/-- A writable partial address, or a group that exists. -/
def Target.Writable (directory : Directory) : Target → Prop
  | device specifier => specifier.Writable
  | group name => GroupWord name ∧ (directory.group? name).isSome

/-- Every argument of the command has words. -/
def Command.Writable (directory : Directory) : Command → Prop
  | discover | debug _ | quit | aliases .list => True
  | devices _ => False
  | get command => command.target.Writable directory ∧ command.epcs ≠ []
  | set command =>
    command.target.Writable directory ∧ command.properties ≠ [] ∧ HaveValues command.properties
  | update command => ∀ target ∈ command.target, target.Writable directory
  | aliases (.get name) | aliases (.delete name) => IsWord name ∧ name.toList.head? ≠ some '-'
  | aliases (.bind name criteria) =>
    (IsWord name ∧ checkAlias name = .ok ()) ∧ criteria.device.Writable ∧ HaveValues criteria.properties
  | group (.add name members) | group (.remove name members) =>
    GroupWord name ∧ ∀ member ∈ members, member.Writable
  | group (.delete name) => GroupWord name
  | group (.list name) => ∀ word ∈ name, GroupWord word
  | help topic => ∀ word ∈ topic, IsWord word

/-- Members are told apart: there is one, and behind an address alone stands an address. -/
def Separate (members : List Specifier) : Prop :=
  members ≠ [] ∧ members.IsChain fun member next => member.classCode.isSome ∨ next.ip.isSome

/-- The devices of the command are told apart. -/
def Command.Separable : Command → Prop
  | group (.add _ members) | group (.remove _ members) => Separate members
  | _ => True

/-! ## Arguments -/

/-- A writable partial address is a typed device. -/
theorem Device.Specifier.exists_typed {specifier : Specifier} (h : specifier.Writable) :
    ∃ device : TypedDevice, device.text = specifier.toText ∧ device.specifier = specifier := by
  obtain ⟨ip, classCode, number⟩ := specifier
  obtain ⟨place, v4, numbered⟩ := h
  cases ip with
  | none =>
    obtain ⟨code, rfl⟩ := Option.isSome_iff_exists.mp (place.resolve_left (by simp))
    cases number with
    | none => exact ⟨.anywhere ⟨.ofClassCode code, none⟩, rfl, rfl⟩
    | some number =>
      exact ⟨.anywhere ⟨.ofClassCode code, some (.ofInstance number (numbered number rfl).2)⟩, rfl, rfl⟩
  | some ip =>
    obtain ⟨address, rfl⟩ := v4 ip rfl
    cases classCode with
    | none =>
      cases number with
      | none => exact ⟨.address (.ofDotted address) none, rfl, rfl⟩
      | some number => exact absurd (numbered number rfl).1 (by simp)
    | some code =>
      cases number with
      | none => exact ⟨.address (.ofDotted address) (some ⟨.ofClassCode code, none⟩), rfl, rfl⟩
      | some number =>
        have nonzero := (numbered number rfl).2
        exact ⟨.address (.ofDotted address) (some ⟨.ofClassCode code, some (.ofInstance number nonzero)⟩),
          rfl, rfl⟩

theorem Device.Specifier.exists_typed_list {specifiers : List Specifier}
    (h : ∀ specifier ∈ specifiers, specifier.Writable) :
    ∃ typed : List TypedDevice, typed.map TypedDevice.text = specifiers.map Specifier.toText
      ∧ typed.map TypedDevice.specifier = specifiers := by
  induction specifiers with
  | nil => exact ⟨[], rfl, rfl⟩
  | cons specifier rest ih =>
    obtain ⟨device, text, value⟩ := exists_typed (h specifier List.mem_cons_self)
    obtain ⟨typed, texts, values⟩ := ih fun other mem => h other (List.mem_cons_of_mem _ mem)
    exact ⟨device :: typed, by rw [List.map_cons, List.map_cons, text, texts],
      by rw [List.map_cons, value, values]⟩

/-- A partial address passes the check of its instance number, which is not zero. -/
theorem Directory.specifier_ofSpecifier (directory : Directory) {specifier : Specifier}
    (h : ∀ number ∈ specifier.instanceCode, number ≠ 0) :
    directory.specifier (.ofSpecifier specifier) = .ok specifier := by
  obtain ⟨ip, classCode, number⟩ := specifier
  cases number with
  | none => rfl
  | some number =>
    have nonzero : number ≠ 0 := h number rfl
    have pos : 1 ≤ number.toNat := Nat.pos_of_ne_zero fun zero => nonzero (UInt8.toNat_inj.mp zero)
    have lt : number.toNat < 256 := number.toNat_lt
    show (checkInstance number.toNat).map _ = _
    rw [checkInstance, if_pos ⟨pos, by omega⟩, UInt8.ofNat_toNat]
    rfl

/-- A target as the grammar reads it. -/
def Target.arg : Target → DeviceArg
  | device specifier => .ofSpecifier specifier
  | group name => .group name

theorem GroupWord.at_sign {name : String} (h : GroupWord name) : name.toList.head? = some '@' := by
  obtain ⟨-, ok⟩ := h
  unfold checkGroup at ok
  split at ok
  · next rest chars => rw [chars]; rfl
  · simp at ok

/-- **A writable target is taken and resolved**, in front of anything that is not more of a device. -/
theorem Target.takes {directory : Directory} {target : Target} (h : target.Writable directory) :
    directory.target target.arg = .ok target ∧ ∃ front, Spells target.toText front ∧
      ∀ after, NoObject after → Takes deviceNode (front ++ after) (.device target.arg) after := by
  cases target with
  | device specifier =>
    obtain ⟨device, text, value⟩ := Specifier.exists_typed h
    refine ⟨?_, device.front, ?_, fun after follows => ?_⟩
    · show (directory.specifier (.ofSpecifier specifier)).map _ = _
      rw [directory.specifier_ofSpecifier h.numbered]
      rfl
    · show Spells specifier.toText _
      rw [← text]
      exact device.spells
    · show Takes _ _ (.device (.ofSpecifier specifier)) _
      rw [← value]
      exact device.takes (TypedDevice.EndsBefore.of_noObject follows)
  | group name =>
    obtain ⟨word, known⟩ := h
    refine ⟨?_, [.word name], .word word.1, fun after _ => takes_device_group word.at_sign⟩
    show (if _ then _ else _) = _
    rw [if_pos known]

/-- Properties with values are typed properties. -/
theorem HaveValues.exists_typed {properties : List Property} (h : HaveValues properties) :
    ∃ typed : List TypedProperty, typed.map TypedProperty.text = properties.map Property.toText
      ∧ typed.map TypedProperty.value = properties := by
  induction properties with
  | nil => exact ⟨[], rfl, rfl⟩
  | cons property rest ih =>
    obtain ⟨typed, texts, values⟩ := ih fun other mem => h other (List.mem_cons_of_mem _ mem)
    refine ⟨⟨.ofEpc property.epc, .ofEdt property.edt (h property List.mem_cons_self)⟩ :: typed, ?_, ?_⟩
    · rw [List.map_cons, List.map_cons, texts]; rfl
    · rw [List.map_cons, values]; rfl

/-- A property as the grammar reads it. -/
def rawProperty (property : Property) : Matched := .property (.raw property.epc property.edt)

theorem takesMany_properties (typed : List TypedProperty) :
    TakesMany propertyNode (typed.flatMap TypedProperty.front ++ [.stop])
      (typed.map fun property => rawProperty property.value) [.stop] :=
  TakesMany.of_items (fun property _ _ => property.takes) (fun _ _ => by simp [TypedProperty.front])
    refuses_property_stop

theorem Directory.properties_raw (directory : Directory) (classCode : Option Device.ClassCode)
    (properties : List Property) :
    directory.properties classCode (properties.map rawProperty) = .ok properties := by
  induction properties with
  | nil => rfl
  | cons property rest ih =>
    rw [List.map_cons, rawProperty, Directory.properties, ih]
    rfl

/-- Properties as they are typed are the properties that are meant. -/
theorem Directory.properties_typed (directory : Directory) (classCode : Option Device.ClassCode)
    (typed : List TypedProperty) :
    directory.properties classCode (typed.map fun property => rawProperty property.value)
      = .ok (typed.map TypedProperty.value) := by
  rw [← directory.properties_raw classCode, List.map_map]
  rfl

end DeviceConsole
