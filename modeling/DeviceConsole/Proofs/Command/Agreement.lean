import DeviceConsole.Proofs.Grammar.Yields

/-!
# `Proofs.Command.Agreement` — the grammar and the builder agree

A command is built from a flat list of items, by position, while the grammar makes a tree. The two meet in
`CommandItems`: which items can stand behind a command word. The grammar gives no others
(`items_of_command`), and for these the builder has a case each (`built_of_commandItems`), so what is left to
fail is the meaning of a word: a name that stands for nothing, a number out of range, and so on (`Refusal`).

* `build_of_parseTokens` — a match of an accepted line gives a command of the kind that was typed, or a `Refusal`.
-/

namespace DeviceConsole

open Device (checkAlias checkGroup)
open Grammar

/-! ## Items of a command -/

/-- An item of a listing. -/
inductive IsListingItem : Matched → Prop
  | device (arg : DeviceArg) : IsListingItem (.device arg)
  | showAll : IsListingItem (.keyword .listOption "-all")
  | showKnown : IsListingItem (.keyword .listOption "-props")
  | groupBy (epc : Device.Epc) : IsListingItem (.groupBy epc)
  | property (arg : PropertyArg) : IsListingItem (.property arg)
  | epc (epc : Device.Epc) : IsListingItem (.epc epc)

/-- An item behind the device of a reading. -/
inductive IsReadingItem : Matched → Prop
  | epc (epc : Device.Epc) : IsReadingItem (.epc epc)
  | option (label : String) : IsReadingItem (.keyword .getOption label)

/-- An item of a refresh. -/
inductive IsUpdateItem : Matched → Prop
  | device (arg : DeviceArg) : IsUpdateItem (.device arg)
  | option (label : String) : IsUpdateItem (.keyword .updateOption label)

/-- A property. -/
def IsProperty (item : Matched) : Prop := ∃ arg, item = .property arg

/-- A device. -/
def IsDevice (item : Matched) : Prop := ∃ arg, item = .device arg

/-- The items of a command on aliases. -/
inductive AliasItems : List Matched → Prop
  | list : AliasItems []
  | delete (label name : String) : AliasItems [.keyword .deleteOption label, .name .aliasName name]
  | get (name : String) : AliasItems [.name .aliasName name]
  | bind (name : String) (arg : DeviceArg) {properties : List Matched} :
      (∀ item ∈ properties, IsProperty item) → AliasItems (.name .aliasName name :: .device arg :: properties)

/-- The items of a command on groups. -/
inductive GroupItems : List Matched → Prop
  | members {action : String} (name : String) {devices : List Matched} :
      action = "add" ∨ action = "remove" → devices ≠ [] → (∀ item ∈ devices, IsDevice item) →
      GroupItems (.keyword .groupAction action :: .name .groupName name :: devices)
  | delete (name : String) : GroupItems [.keyword .groupAction "delete", .name .groupName name]
  | listAll : GroupItems [.keyword .groupAction "list"]
  | listOne (name : String) : GroupItems [.keyword .groupAction "list", .name .groupName name]

/-- The items that can stand behind a command word. -/
inductive CommandItems : String → List Matched → Prop
  | discover : CommandItems "discover" []
  | devices {word : String} {items : List Matched} :
      word = "devices" ∨ word = "list" → (∀ item ∈ items, IsListingItem item) → CommandItems word items
  | get (arg : DeviceArg) {items : List Matched} :
      (∀ item ∈ items, IsReadingItem item) → CommandItems "get" (.device arg :: items)
  | set (arg : DeviceArg) {items : List Matched} :
      (∀ item ∈ items, IsProperty item) → CommandItems "set" (.device arg :: items)
  | update {items : List Matched} : (∀ item ∈ items, IsUpdateItem item) → CommandItems "update" items
  | aliases {items : List Matched} : AliasItems items → CommandItems "alias" items
  | group {items : List Matched} : GroupItems items → CommandItems "group" items
  | debug (items : List Matched) : CommandItems "debug" items
  | help (items : List Matched) : CommandItems "help" items
  | quit : CommandItems "quit" []

/-! ## What the grammar gives -/

section Grammar

variable {inner : Node} {result : Matched}

theorem isDevice_of_conversion {found : Matched} (converted : Conversion.device found = some result) :
    IsDevice result := by
  unfold Conversion.device at converted
  split at converted
  all_goals first
    | exact ⟨_, (Option.some.inj converted).symm⟩
    | cases converted

theorem device_of_yields (h : deviceNode.Yields result) : IsDevice result := by
  obtain ⟨found, -, converted⟩ := h
  exact isDevice_of_conversion converted

theorem property_of_yields (h : propertyNode.Yields result) : IsProperty result := by
  obtain ⟨found, -, converted⟩ := h
  unfold Conversion.property at converted
  split at converted
  all_goals first
    | exact ⟨_, (Option.some.inj converted).symm⟩
    | cases converted

theorem groupBy_of_yields (h : groupByNode.Yields result) : ∃ epc, result = .groupBy epc := by
  obtain ⟨found, -, converted⟩ := h
  unfold Conversion.groupBy at converted
  split at converted
  · exact ⟨_, (Option.some.inj converted).symm⟩
  · cases converted

/-- The items of a repetition are the results of its inner node, where these are single items. -/
theorem items_of_repeated {P : Matched → Prop}
    (single : ∀ item, inner.Yields item → item.items = [item] ∧ P item)
    (h : (Node.repeated inner).Yields result) : ∀ item ∈ result.items, P item := by
  obtain ⟨items, -, rfl, each⟩ := h
  -- `items_map_leaf` speaks of a mapped list, so the list is mapped by the identity
  have leaves : itemsOfAll (items.map id) = items.map id :=
    items_map_leaf fun item mem => (single item (each item mem)).1
  intro item mem
  rw [Matched.items, ← List.map_id items, leaves, List.map_id] at mem
  exact (single item (each item mem)).2

/-- A repetition has an item. -/
theorem items_ne_nil_of_repeated {P : Matched → Prop}
    (single : ∀ item, inner.Yields item → item.items = [item] ∧ P item)
    (h : (Node.repeated inner).Yields result) : result.items ≠ [] := by
  obtain ⟨items, some_item, rfl, each⟩ := h
  obtain ⟨item, rest, rfl⟩ := List.exists_cons_of_ne_nil some_item
  rw [Matched.items, itemsOfAll, (single item (each item List.mem_cons_self)).1]
  simp

/-- An optional part has the items of its inner node, or none. -/
theorem items_of_optional {P : List Matched → Prop} (nothing : P [])
    (something : ∀ item, inner.Yields item → P item.items) (h : (Node.optional inner).Yields result) :
    P result.items := by
  rcases h with rfl | h
  · exact nothing
  · exact something result h

theorem items_of_any_number {P : Matched → Prop}
    (single : ∀ item, inner.Yields item → item.items = [item] ∧ P item)
    (h : (Node.optional (.repeated inner)).Yields result) : ∀ item ∈ result.items, P item :=
  @items_of_optional _ _ (fun items => ∀ item ∈ items, P item) (by simp)
    (fun _ yields => items_of_repeated single yields) h

theorem single_property (item : Matched) (h : propertyNode.Yields item) :
    item.items = [item] ∧ IsProperty item := by
  obtain ⟨arg, rfl⟩ := property_of_yields h
  exact ⟨rfl, arg, rfl⟩

theorem single_device (item : Matched) (h : deviceNode.Yields item) : item.items = [item] ∧ IsDevice item := by
  obtain ⟨arg, rfl⟩ := device_of_yields h
  exact ⟨rfl, arg, rfl⟩

theorem isListingItem_of_yields {item : Matched} (h : (Node.alt [wordNode .listOption "-all",
    wordNode .listOption "-props", groupByNode, propertyNode, epcNode]).Yields item) :
    item.items = [item] ∧ IsListingItem item := by
  rcases h with h | h | h | h | h | h
  · obtain rfl := keyword_of_yields h
    exact ⟨rfl, .showAll⟩
  · obtain rfl := keyword_of_yields h
    exact ⟨rfl, .showKnown⟩
  · obtain ⟨epc, rfl⟩ := groupBy_of_yields h
    exact ⟨rfl, .groupBy epc⟩
  · obtain ⟨arg, rfl⟩ := property_of_yields h
    exact ⟨rfl, .property arg⟩
  · obtain ⟨epc, rfl⟩ := epc_of_yields h
    exact ⟨rfl, .epc epc⟩
  · exact h.elim

theorem items_of_devices (h : devicesCommand.Yields result) :
    ∃ word ∈ ["devices", "list"], ∃ items,
      result.items = .keyword .command word :: items ∧ CommandItems word items := by
  obtain ⟨_, rfl, first, _, rfl, named, device, _, rfl, deviceYields, rest, _, rfl, restYields, rfl⟩ := h
  -- this command alone starts with one of two words
  obtain ⟨word, mem, rfl⟩ : ∃ word ∈ ["devices", "list"], first = .keyword .command word := by
    rcases named with h | h | h
    · exact ⟨"devices", by simp, keyword_of_yields h⟩
    · exact ⟨"list", by simp, keyword_of_yields h⟩
    · exact h.elim
  have front : ∀ item ∈ device.items, IsListingItem item := by
    refine @items_of_optional _ _ (fun items => ∀ item ∈ items, IsListingItem item) (by simp) ?_ deviceYields
    intro found yields item mem
    obtain ⟨arg, rfl⟩ := device_of_yields yields
    obtain rfl := List.mem_singleton.mp mem
    exact .device arg
  have back := items_of_any_number (fun _ => isListingItem_of_yields) restYields
  refine ⟨word, mem, device.items ++ rest.items, by simp [Matched.items, itemsOfAll], ?_⟩
  refine .devices (by simpa using mem) ?_
  intro item mem
  exact (List.mem_append.mp mem).elim (front item) (back item)

theorem items_of_get (h : getCommand.Yields result) :
    ∃ items, result.items = .keyword .command "get" :: items ∧ CommandItems "get" items := by
  obtain ⟨_, rfl, first, _, rfl, named, device, _, rfl, deviceYields, rest, _, rfl, restYields, rfl⟩ := h
  obtain rfl := keyword_of_yields named
  obtain ⟨arg, rfl⟩ := device_of_yields deviceYields
  refine ⟨.device arg :: rest.items, by simp [Matched.items, itemsOfAll], .get arg ?_⟩
  refine items_of_repeated (fun item yields => ?_) restYields
  rcases yields with h | h | h
  · obtain ⟨epc, rfl⟩ := epc_of_yields h
    exact ⟨rfl, .epc epc⟩
  · obtain rfl := keyword_of_yields h
    exact ⟨rfl, .option _⟩
  · exact h.elim

theorem items_of_set (h : setCommand.Yields result) :
    ∃ items, result.items = .keyword .command "set" :: items ∧ CommandItems "set" items := by
  obtain ⟨_, rfl, first, _, rfl, named, device, _, rfl, deviceYields, rest, _, rfl, restYields, rfl⟩ := h
  obtain rfl := keyword_of_yields named
  obtain ⟨arg, rfl⟩ := device_of_yields deviceYields
  exact ⟨.device arg :: rest.items, by simp [Matched.items, itemsOfAll],
    .set arg (items_of_repeated single_property restYields)⟩

theorem items_of_update (h : updateCommand.Yields result) :
    ∃ items, result.items = .keyword .command "update" :: items ∧ CommandItems "update" items := by
  obtain ⟨_, rfl, first, _, rfl, named, device, _, rfl, deviceYields, rest, _, rfl, restYields, rfl⟩ := h
  obtain rfl := keyword_of_yields named
  have front : ∀ item ∈ device.items, IsUpdateItem item := by
    refine @items_of_optional _ _ (fun items => ∀ item ∈ items, IsUpdateItem item) (by simp) ?_ deviceYields
    intro found yields item mem
    obtain ⟨arg, rfl⟩ := device_of_yields yields
    obtain rfl := List.mem_singleton.mp mem
    exact .device arg
  have back : ∀ item ∈ rest.items, IsUpdateItem item := by
    refine items_of_any_number (fun item yields => ?_) restYields
    rcases yields with h | h | h | h
    · obtain rfl := keyword_of_yields h
      exact ⟨rfl, .option _⟩
    · obtain rfl := keyword_of_yields h
      exact ⟨rfl, .option _⟩
    · obtain rfl := keyword_of_yields h
      exact ⟨rfl, .option _⟩
    · exact h.elim
  refine ⟨device.items ++ rest.items, by simp [Matched.items, itemsOfAll], .update ?_⟩
  intro item mem
  exact (List.mem_append.mp mem).elim (front item) (back item)

theorem aliasItems_of_yields {item : Matched}
    (h : (Node.alt [.seq [wordNode .deleteOption "-delete", aliasNameNode],
      .seq [aliasNameNode, .optional (.seq [deviceNode, .optional (.repeated propertyNode)])]]).Yields item) :
    AliasItems item.items := by
  rcases h with h | h | h
  · obtain ⟨_, rfl, option, _, rfl, optionYields, named, _, rfl, namedYields, rfl⟩ := h
    obtain rfl := keyword_of_yields optionYields
    obtain ⟨name, rfl⟩ := aliasName_of_yields namedYields
    exact .delete _ name
  · obtain ⟨_, rfl, named, _, rfl, namedYields, rest, _, rfl, restYields, rfl⟩ := h
    obtain ⟨name, rfl⟩ := aliasName_of_yields namedYields
    rcases restYields with rfl | ⟨_, rfl, device, _, rfl, deviceYields, properties, _, rfl, propertyYields, rfl⟩
    · exact .get name
    · obtain ⟨arg, rfl⟩ := device_of_yields deviceYields
      have flat : (Matched.seq [.name .aliasName name, .seq [.device arg, properties]]).items
          = .name .aliasName name :: .device arg :: properties.items := by
        simp [Matched.items, itemsOfAll]
      rw [flat]
      exact .bind name arg (items_of_any_number single_property propertyYields)
  · exact h.elim

theorem items_of_alias (h : aliasCommand.Yields result) :
    ∃ items, result.items = .keyword .command "alias" :: items ∧ CommandItems "alias" items := by
  obtain ⟨_, rfl, first, _, rfl, named, rest, _, rfl, restYields, rfl⟩ := h
  obtain rfl := keyword_of_yields named
  exact ⟨rest.items, by simp [Matched.items, itemsOfAll],
    .aliases (items_of_optional .list (fun _ => aliasItems_of_yields) restYields)⟩

theorem groupItems_of_members {action : String} (named : action = "add" ∨ action = "remove") {item : Matched}
    (h : (membersNode action).Yields item) : GroupItems item.items := by
  obtain ⟨_, rfl, first, _, rfl, firstYields, name, _, rfl, nameYields, rest, _, rfl, restYields, rfl⟩ := h
  obtain rfl := keyword_of_yields firstYields
  obtain ⟨name, rfl⟩ := groupName_of_yields nameYields
  have flat : (Matched.seq [.keyword .groupAction action, .name .groupName name, rest]).items
      = .keyword .groupAction action :: .name .groupName name :: rest.items := by
    simp [Matched.items, itemsOfAll]
  rw [flat]
  exact .members name named (items_ne_nil_of_repeated single_device restYields)
    (items_of_repeated single_device restYields)

theorem groupItems_of_yields {item : Matched} (h : (Node.alt (groupTable.map Prod.snd)).Yields item) :
    GroupItems item.items := by
  rcases h with h | h | h | h | h
  · exact groupItems_of_members (.inl rfl) h
  · exact groupItems_of_members (.inr rfl) h
  · obtain ⟨_, rfl, first, _, rfl, firstYields, name, _, rfl, nameYields, rfl⟩ := h
    obtain rfl := keyword_of_yields firstYields
    obtain ⟨name, rfl⟩ := groupName_of_yields nameYields
    exact .delete name
  · obtain ⟨_, rfl, first, _, rfl, firstYields, name, _, rfl, nameYields, rfl⟩ := h
    obtain rfl := keyword_of_yields firstYields
    rcases nameYields with rfl | nameYields
    · exact .listAll
    · obtain ⟨name, rfl⟩ := groupName_of_yields nameYields
      exact .listOne name
  · exact h.elim

theorem items_of_group (h : groupCommand.Yields result) :
    ∃ items, result.items = .keyword .command "group" :: items ∧ CommandItems "group" items := by
  obtain ⟨_, rfl, first, _, rfl, named, rest, _, rfl, restYields, rfl⟩ := h
  obtain rfl := keyword_of_yields named
  exact ⟨rest.items, by simp [Matched.items, itemsOfAll], .group (groupItems_of_yields restYields)⟩

/-- **The grammar gives no other items** than those that can stand behind a word of the command. -/
theorem items_of_command {entry : List String × Node} (mem : entry ∈ commandTable)
    (h : entry.2.Yields result) :
    ∃ word ∈ entry.1, ∃ items, result.items = .keyword .command word :: items ∧ CommandItems word items := by
  simp only [commandTable, List.mem_cons, List.not_mem_nil, or_false] at mem
  rcases mem with rfl | rfl | rfl | rfl | rfl | rfl | rfl | rfl | rfl | rfl
  · obtain ⟨_, rfl, first, _, rfl, named, rfl⟩ := h
    obtain rfl := keyword_of_yields named
    exact ⟨_, List.mem_singleton.mpr rfl, [], rfl, .discover⟩
  · exact items_of_devices h
  · exact ⟨_, List.mem_singleton.mpr rfl, items_of_get h⟩
  · exact ⟨_, List.mem_singleton.mpr rfl, items_of_set h⟩
  · exact ⟨_, List.mem_singleton.mpr rfl, items_of_update h⟩
  · exact ⟨_, List.mem_singleton.mpr rfl, items_of_alias h⟩
  · exact ⟨_, List.mem_singleton.mpr rfl, items_of_group h⟩
  · obtain ⟨_, rfl, first, _, rfl, named, rest, _, rfl, -, rfl⟩ := h
    obtain rfl := keyword_of_yields named
    exact ⟨_, List.mem_singleton.mpr rfl, rest.items, by simp [Matched.items, itemsOfAll], .debug _⟩
  · obtain ⟨_, rfl, first, _, rfl, named, rest, _, rfl, -, rfl⟩ := h
    obtain rfl := keyword_of_yields named
    exact ⟨_, List.mem_singleton.mpr rfl, rest.items, by simp [Matched.items, itemsOfAll], .help _⟩
  · obtain ⟨_, rfl, first, _, rfl, named, rfl⟩ := h
    obtain rfl := keyword_of_yields named
    exact ⟨_, List.mem_singleton.mpr rfl, [], rfl, .quit⟩

end Grammar

/-! ## What the builder refuses -/

/-- Why a line of the language may still be refused: a name that stands for nothing, an instance number out of
range, the name of an alias or a group against the rules, a group where one device is meant, and a reading that
names nothing to read. -/
inductive Refusal (word : String) : ConsoleError → Prop
  | notFound (failure : LookupFailure) : Refusal word (.lookupFailure failure)
  | instanceNumber {code : Nat} :
      ¬ (1 ≤ code ∧ code ≤ 255) → Refusal word (.invalidValue (.instanceOutOfRange code))
  | aliasName {name : String} {error : Device.NameError} :
      checkAlias name = .error error → Refusal word (.invalidValue (.badName error))
  | groupName {name : String} {error : Device.NameError} :
      checkGroup name = .error error → Refusal word (.invalidValue (.badName error))
  | groupAsDevice (name : String) : Refusal word (.invalidValue (.groupNotAllowed name))
  | nothingToRead : word = "get" → Refusal word (.invalidValue .noEpc)

/-- A result, or a refusal. -/
def OrRefused {α : Type} (word : String) (result : Except ConsoleError α) : Prop :=
  ∀ error, result = .error error → Refusal word error

section Builder

variable {α β : Type} {word : String} {directory : Directory}

theorem OrRefused.ok (value : α) : OrRefused word (.ok value) := by
  intro error h
  cases h

theorem OrRefused.refused {error : ConsoleError} (h : Refusal word error) :
    @OrRefused α word (.error error) := by
  intro other same
  cases same
  exact h

theorem OrRefused.map {result : Except ConsoleError α} (h : OrRefused word result) (f : α → β) :
    OrRefused word (result.map f) := by
  cases result with
  | ok value => exact .ok (f value)
  | error error => exact .refused (h error rfl)

theorem OrRefused.bind {result : Except ConsoleError α} {next : α → Except ConsoleError β}
    (h : OrRefused word result) (others : ∀ value, OrRefused word (next value)) :
    OrRefused word (result >>= next) := by
  cases result with
  | ok value => exact others value
  | error error => exact .refused (h error rfl)

theorem checkInstance_orRefused (code : Nat) : OrRefused word (Directory.checkInstance code) := by
  unfold Directory.checkInstance
  by_cases range : 1 ≤ code ∧ code ≤ 255
  · rw [if_pos range]
    exact .ok _
  · rw [if_neg range]
    exact .refused (.instanceNumber range)

theorem specifier_orRefused (arg : DeviceArg) : OrRefused word (directory.specifier arg) := by
  cases arg with
  | address ip classCode code =>
    cases code with
    | none => exact .ok _
    | some code => exact (checkInstance_orRefused code).map _
  | aliased name =>
    rw [Directory.specifier]
    cases directory.alias? name with
    | none => exact .refused (.notFound _)
    | some device => exact .ok _
  | group name => exact .refused (.groupAsDevice name)

theorem target_orRefused (arg : DeviceArg) : OrRefused word (directory.target arg) := by
  cases arg with
  | address ip classCode code => exact (specifier_orRefused _).map _
  | aliased name => exact (specifier_orRefused _).map _
  | group name =>
    rw [Directory.target]
    by_cases known : (directory.group? name).isSome
    · simp only [known, if_true]
      exact .ok _
    · simp only [known]
      exact .refused (.notFound _)

theorem property_orRefused (classCode : Option Device.ClassCode) (arg : PropertyArg) :
    OrRefused word (directory.property classCode arg) := by
  cases arg with
  | raw epc edt => exact .ok _
  | valueAlias epc name =>
    rw [Directory.property]
    cases directory.valueOfAlias? classCode epc name with
    | none => exact .refused (.notFound _)
    | some edt => exact .ok _
  | aliased name =>
    rw [Directory.property]
    cases directory.propertyOfAlias? classCode name with
    | none => exact .refused (.notFound _)
    | some property => exact .ok _

theorem properties_orRefused (classCode : Option Device.ClassCode) {items : List Matched}
    (h : ∀ item ∈ items, IsProperty item) : OrRefused word (directory.properties classCode items) := by
  induction items with
  | nil => exact .ok _
  | cons item rest ih =>
    obtain ⟨arg, rfl⟩ := h item List.mem_cons_self
    rw [Directory.properties]
    refine (property_orRefused classCode arg).bind fun first => ?_
    exact (ih fun other mem => h other (List.mem_cons_of_mem _ mem)).bind fun others => .ok _

theorem specifiers_orRefused {items : List Matched} (h : ∀ item ∈ items, IsDevice item) :
    OrRefused word (directory.specifiers items) := by
  induction items with
  | nil => exact .ok _
  | cons item rest ih =>
    obtain ⟨arg, rfl⟩ := h item List.mem_cons_self
    rw [Directory.specifiers]
    refine (specifier_orRefused arg).bind fun first => ?_
    exact (ih fun other mem => h other (List.mem_cons_of_mem _ mem)).bind fun others => .ok _

theorem addItem_orRefused (draft : Directory.Draft) {item : Matched} (h : IsListingItem item) :
    OrRefused word (directory.addItem draft item) := by
  cases h with
  | device arg =>
    cases arg with
    | address ip classCode code => exact (target_orRefused _).map _
    | group name => exact (target_orRefused _).map _
    | aliased name =>
      rw [Directory.addItem]
      cases directory.alias? name with
      | some device => exact .ok _
      | none =>
        -- the word may still be a property code or a property alias
        cases Device.Epc.ofText? name with
        | some epc => exact .ok _
        | none =>
          cases directory.propertyOfAlias? none name with
          | some property => exact .ok _
          | none => exact .refused (.notFound _)
  | showAll => exact .ok _
  | showKnown => exact .ok _
  | groupBy epc => exact .ok _
  | property arg => exact (property_orRefused _ arg).map _
  | epc epc => exact .ok _

/-- A fold over items refuses nothing but what a step refuses. -/
theorem foldlM_orRefused {step : α → Matched → Except ConsoleError α} {P : Matched → Prop}
    (once : ∀ state item, P item → OrRefused word (step state item)) {items : List Matched}
    (h : ∀ item ∈ items, P item) (start : α) : OrRefused word (items.foldlM step start) := by
  induction items generalizing start with
  | nil => exact .ok start
  | cons item rest ih =>
    rw [List.foldlM_cons]
    refine (once start item (h item List.mem_cons_self)).bind fun next => ?_
    exact ih (fun other mem => h other (List.mem_cons_of_mem _ mem)) next

theorem requested_orRefused {items : List Matched} (h : ∀ item ∈ items, IsReadingItem item) :
    OrRefused word (Directory.requested items) := by
  induction items with
  | nil => exact .ok _
  | cons item rest ih =>
    have others := ih fun other mem => h other (List.mem_cons_of_mem _ mem)
    cases h item List.mem_cons_self with
    | epc epc => exact others.map _
    | option label => exact others.map _

/-- The target of items, in front of what is built from the others. -/
theorem frontTarget_orRefused (arg : DeviceArg) (items : List Matched)
    {next : Target × List Matched → Except ConsoleError α}
    (others : ∀ target, OrRefused word (next (target, items))) :
    OrRefused word (directory.frontTarget (.device arg :: items) >>= next) := by
  rw [Directory.frontTarget]
  cases resolved : directory.target arg with
  | error error => exact .refused (target_orRefused arg error resolved)
  | ok target => exact others target

theorem get_orRefused (arg : DeviceArg) {items : List Matched} (h : ∀ item ∈ items, IsReadingItem item) :
    OrRefused "get" (directory.get (.device arg :: items)) := by
  refine frontTarget_orRefused arg items fun target => ?_
  refine (requested_orRefused h).bind fun (epcs, skip) => ?_
  by_cases empty : epcs.isEmpty
  · simp only [empty, if_true]
    exact .refused (.nothingToRead rfl)
  · simp only [empty]
    exact .ok _

theorem set_orRefused (arg : DeviceArg) {items : List Matched} (h : ∀ item ∈ items, IsProperty item) :
    OrRefused word (directory.set (.device arg :: items)) := by
  refine frontTarget_orRefused arg items fun target => ?_
  exact (properties_orRefused _ h).bind fun properties => .ok _

theorem addUpdateItem_orRefused (command : UpdateCommand) {item : Matched} (h : IsUpdateItem item) :
    OrRefused word (directory.addUpdateItem command item) := by
  cases h with
  | device arg => exact (target_orRefused arg).map _
  | option label => exact .ok _

theorem checkAlias_orRefused (name : String) :
    OrRefused word ((checkAlias name).mapError fun error => .invalidValue (.badName error)) := by
  cases checked : checkAlias name with
  | ok _ => exact .ok _
  | error error => exact .refused (.aliasName checked)

theorem aliases_orRefused {items : List Matched} (h : AliasItems items) :
    OrRefused word (directory.aliases items) := by
  cases h with
  | list => exact .ok _
  | delete label name => exact .ok _
  | get name => exact .ok _
  | bind name arg properties =>
    rw [Directory.aliases]
    · refine (specifier_orRefused arg).bind fun device => ?_
      refine (checkAlias_orRefused name).bind fun _ => ?_
      exact (properties_orRefused _ properties).bind fun _ => .ok _

theorem frontGroup_orRefused (name : String) (items : List Matched)
    {next : Option String × List Matched → Except ConsoleError α}
    (others : OrRefused word (next (some name, items))) :
    OrRefused word (Directory.frontGroup (.name .groupName name :: items) >>= next) := by
  rw [Directory.frontGroup]
  cases checked : checkGroup name with
  | ok _ => exact others
  | error error => exact .refused (.groupName checked)

theorem group_orRefused {items : List Matched} (h : GroupItems items) :
    OrRefused word (directory.group items) := by
  cases h with
  | members name named _ devices =>
    refine frontGroup_orRefused name _ ?_
    refine (specifiers_orRefused devices).bind fun specifiers => ?_
    rcases named with rfl | rfl
    · exact .ok _
    · exact .ok _
  | delete name => exact frontGroup_orRefused name _ (.ok _)
  | listAll => exact .ok _
  | listOne name => exact frontGroup_orRefused name _ (.ok _)

/-- The word of the command that a command word stands for. -/
def commandKind (word : String) : String := if word = "list" then "devices" else word

/-- A command of the kind of the word, or a refusal. -/
def Built (word : String) (result : Except ConsoleError Command) : Prop :=
  OrRefused word result ∧ ∀ command, result = .ok command → command.name = commandKind word

theorem Built.ok {command : Command} (kind : command.name = commandKind word) : Built word (.ok command) := by
  refine ⟨.ok command, ?_⟩
  rintro other ⟨⟩
  exact kind

theorem Built.map {result : Except ConsoleError α} {make : α → Command} (h : OrRefused word result)
    (kind : ∀ value, (make value).name = commandKind word) : Built word (result.map make) := by
  refine ⟨h.map make, fun command same => ?_⟩
  cases result with
  | error error => cases same
  | ok value =>
    cases same
    exact kind value

/-- **For the items that can stand behind a word** the builder gives a command of that kind, or a refusal. -/
theorem built_of_commandItems {items : List Matched} (h : CommandItems word items) :
    Built word (directory.buildNamed word items) := by
  cases h with
  | discover => exact .ok rfl
  | devices named listed =>
    have folded : OrRefused word (directory.devices items) :=
      (foldlM_orRefused (fun draft _ => addItem_orRefused draft) listed {}).map Directory.Draft.finish
    rcases named with rfl | rfl
    · show Built "devices" ((directory.devices items).map .devices)
      exact .map folded fun _ => rfl
    · show Built "list" ((directory.devices items).map .devices)
      exact .map folded fun _ => rfl
  | @get arg others listed =>
    show Built "get" ((directory.get (.device arg :: others)).map .get)
    exact .map (get_orRefused arg listed) fun _ => rfl
  | @set arg others listed =>
    show Built "set" ((directory.set (.device arg :: others)).map .set)
    exact .map (set_orRefused arg listed) fun _ => rfl
  | update listed =>
    have folded : OrRefused "update" (directory.update items) :=
      foldlM_orRefused (fun command _ => addUpdateItem_orRefused command) listed {}
    show Built "update" ((directory.update items).map .update)
    exact .map folded fun _ => rfl
  | aliases listed =>
    show Built "alias" ((directory.aliases items).map .aliases)
    exact .map (aliases_orRefused listed) fun _ => rfl
  | group listed =>
    show Built "group" ((directory.group items).map .group)
    exact .map (group_orRefused listed) fun _ => rfl
  | debug => exact .ok rfl
  | help => exact .ok rfl
  | quit => exact .ok rfl

end Builder

/-! ## Accepted lines -/

/-- The words of one command stand for the same. -/
theorem same_kind {entry : List String × Node} (mem : entry ∈ commandTable) {word text : String}
    (own : word ∈ entry.1) (typed : text ∈ entry.1) :
    commandKind word = commandKind text ∧ (word = "get" → text = "get") := by
  simp only [commandTable, List.mem_cons, List.not_mem_nil, or_false] at mem
  rcases mem with rfl | rfl | rfl | rfl | rfl | rfl | rfl | rfl | rfl | rfl
  -- a listing: `list` is built as `devices`
  case inr.inl =>
    simp only [List.mem_cons, List.not_mem_nil, or_false] at own typed
    rcases own with rfl | rfl <;> rcases typed with rfl | rfl <;> decide
  all_goals
    obtain rfl := List.mem_singleton.mp own
    obtain rfl := List.mem_singleton.mp typed
    exact ⟨rfl, id⟩

theorem Refusal.of_word {word text : String} {error : ConsoleError} (same : word = "get" → text = "get")
    (h : Refusal word error) : Refusal text error := by
  cases h with
  | notFound failure => exact .notFound failure
  | instanceNumber range => exact .instanceNumber range
  | aliasName checked => exact .aliasName checked
  | groupName checked => exact .groupName checked
  | groupAsDevice name => exact .groupAsDevice name
  | nothingToRead reading => exact .nothingToRead (same reading)

/-- **The grammar and the builder agree.** An accepted line starts with a command word, and whatever names the
directory holds, its match gives a command of the kind of that word, or one of the refusals that are about the
meaning of a word; no shape of a match is unexpected. -/
theorem build_of_parseTokens (directory : Directory) {tokens : List Token} {matched : Matched}
    (h : parseTokens tokens = .ok matched) :
    ∃ position word rest, tokens = .word position word :: rest
      ∧ ((∃ command, directory.build matched = .ok command ∧ command.name = commandKind word)
        ∨ ∃ error, directory.build matched = .error error ∧ Refusal word error) := by
  obtain ⟨entry, mem, yields, position, text, rest, rfl, typed⟩ := command_of_parseTokens h
  obtain ⟨word, own, items, flat, shape⟩ := items_of_command mem yields
  obtain ⟨refused, kind⟩ := @built_of_commandItems word directory items shape
  obtain ⟨sameKind, sameGet⟩ := same_kind mem own typed
  refine ⟨position, text, rest, rfl, ?_⟩
  rw [directory.build_of_items flat]
  cases built : directory.buildNamed word items with
  | ok command => exact .inl ⟨command, rfl, (kind command built).trans sameKind⟩
  | error error => exact .inr ⟨error, rfl, (refused error built).of_word sameGet⟩

/-- The match of a reading whose instance number is out of range. -/
def readingOfInstance300 : Matched :=
  .seq [.keyword .command "get", .device (.address none (some ⟨0x0130⟩) (some 300)), .repeated [.epc ⟨0x80⟩]]

/-- The grammar accepts any number of up to three digits; the builder refuses it. -/
theorem build_of_parseTokens_instance :
    parseTokens (tokenize "get 0130:300 80") = .ok readingOfInstance300
    ∧ Directory.empty.build readingOfInstance300 = .error (.invalidValue (.instanceOutOfRange 300))
    ∧ Refusal "get" (.invalidValue (.instanceOutOfRange 300)) := by
  have accepted : parseTokens (tokenize "get 0130:300 80") = .ok readingOfInstance300 := rfl
  have built : Directory.empty.build readingOfInstance300
      = .error (.invalidValue (.instanceOutOfRange 300)) := rfl
  refine ⟨accepted, built, ?_⟩
  obtain ⟨position, word, rest, tokens, outcome⟩ := build_of_parseTokens Directory.empty accepted
  have typed : tokenize "get 0130:300 80" = .word 0 "get" :: _ := rfl
  obtain ⟨same, -⟩ := List.cons.inj (typed.symm.trans tokens)
  cases same
  rcases outcome with ⟨command, ok, -⟩ | ⟨error, failed, refusal⟩
  · rw [built] at ok
    cases ok
  · rw [built] at failed
    cases failed
    exact refusal

end DeviceConsole
