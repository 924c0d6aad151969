import DeviceConsole.Proofs.Command.Written
import Mathlib.Data.List.Chain

/-!
# `Proofs.Command.ReadBack` — a written command is read back

One lemma a command: the texts of its line spell marks, the rules of its grammar take them, and the items of the
match build the command again. The commands with lists (`get`, `set`, `alias`, `group`) hand their list to
`TakesMany.of_items`, so that only a single element and what follows it has to be looked at.

* `parse_get_of_takes`, `parse_bind`, `parse_members_of_takes`, … — a line whose arguments are taken, in whatever
  words they stand;
* `parse_written` — every writable and separable command is read back, whatever names the directory holds;
* `parse_written_ne` — without separability this fails.
-/

namespace DeviceConsole

open Device (Criteria Epc Property Specifier checkAlias checkGroup)
open Grammar

variable {directory : Directory}

/-! ## Reading -/

/-- A word behind the device of a reading: a property code, or the option. -/
def readingText : Option Epc → String
  | some epc => epc.toText
  | none => "-skip-validation"

/-- Such a word as the grammar reads it. -/
def readingItem : Option Epc → Matched
  | some epc => .epc epc
  | none => .keyword .getOption "-skip-validation"

/-- The words behind the device of a reading. -/
def readingWords (command : GetCommand) : List (Option Epc) :=
  command.epcs.map some ++ if command.skipValidation then [none] else []

theorem words_get (command : GetCommand) :
    (Command.get command).words
      = "get" :: command.target.toText :: (readingWords command).map readingText := by
  obtain ⟨target, epcs, _ | _⟩ := command <;> simp [Command.words, readingWords, readingText]

theorem spells_readingText (word : Option Epc) : Spells (readingText word) [.word (readingText word)] := by
  cases word with
  | none => exact .word (by decide)
  | some epc => exact .word (Typed.ofEpc epc).isWord

theorem takesMany_reading (words : List (Option Epc)) :
    TakesMany (.alt [epcNode, wordNode .getOption "-skip-validation"])
      (words.flatMap (fun word => [.word (readingText word)]) ++ [.stop]) (words.map readingItem) [.stop] := by
  refine TakesMany.of_items (fun word later _ => ?_) (fun _ _ => by simp)
    (.alt_cons refuses_leaf_stop (.alt_cons refuses_keyword_stop .alt_nil))
  cases word with
  | some epc => exact .alt_head (takes_epc (Typed.ofEpc epc))
  | none => exact .alt_tail (refuses_epc (by decide)) (.alt_head takes_keyword)

theorem noObject_reading (words : List (Option Epc)) :
    NoObject (words.flatMap (fun word => [.word (readingText word)]) ++ [.stop]) := by
  cases words with
  | nil => exact noObject_stop
  | cons word rest =>
    cases word with
    | some epc => exact noObject_epc (Typed.ofEpc epc)
    | none => exact noObject_word (by decide)

theorem requested_reading (command : GetCommand) :
    Directory.requested ((readingWords command).map readingItem)
      = .ok (command.epcs, command.skipValidation) := by
  obtain ⟨target, epcs, skip⟩ := command
  induction epcs with
  | nil => cases skip <;> rfl
  | cons epc rest ih =>
    show (Directory.requested ((readingWords ⟨target, rest, skip⟩).map readingItem)).map _ = _
    rw [ih]
    rfl

/-- The items of a command with a target and a list of single items. -/
theorem items_target_list {word : String} {arg : DeviceArg} {items : List Matched} (leaves : itemsOfAll items = items) :
    (Matched.seq [.keyword .command word, .device arg, .repeated items]).items
      = .keyword .command word :: .device arg :: items := by
  simp [Matched.items, itemsOfAll, leaves]

section Target

variable {text : String} {texts : List String} {front marks : List Mark} {arg : DeviceArg} {items : List Matched}

/-- A reading, if what stands for its device and what stands behind it are taken one after the other. -/
theorem parse_get_of_takes {command : GetCommand} (spells : Spells text front) (others : SpellsAll texts marks)
    (takes : Takes deviceNode (front ++ (marks ++ [.stop])) (.device arg) (marks ++ [.stop]))
    (many : TakesMany (.alt [epcNode, wordNode .getOption "-skip-validation"]) (marks ++ [.stop]) items [.stop])
    (leaves : itemsOfAll items = items) (stands : directory.target arg = .ok command.target)
    (requested : Directory.requested items = .ok (command.epcs, command.skipValidation))
    (some_epc : command.epcs ≠ []) :
    directory.parse (" ".intercalate ("get" :: text :: texts)) = .ok (.get command) := by
  have mem : (["get"], getCommand) ∈ commandTable := by simp [commandTable]
  have some_item : items ≠ [] := by
    rintro rfl
    have nothing : ([], false) = (command.epcs, command.skipValidation) := Except.ok.inj requested
    exact some_epc (Prod.mk.inj nothing).1.symm
  have taken : Takes getCommand (.word "get" :: ((front ++ marks) ++ [.stop]))
      (.seq [.keyword .command "get", .device arg, .repeated items]) [.stop] := by
    rw [List.append_assoc]
    exact .seq (.cons takes_keyword (.cons takes (.cons (.repeated many some_item) .nil)))
  have built : directory.get (.device arg :: items) = .ok command := by
    have listed : command.epcs.isEmpty = false := List.isEmpty_eq_false_iff.mpr some_epc
    simp only [Directory.get, Directory.frontTarget, stands, Except.map, requested, bind, Except.bind, listed]
    rfl
  refine directory.parse_of_word mem (.cons spells others) taken ?_
  rw [directory.build_of_items (items_target_list leaves)]
  show (directory.get _).map _ = _
  rw [built]
  rfl

/-- A writing, in the same way: it gives what its properties give in the class of its target. -/
theorem parse_set_of_marks {line : String} {rest : List Mark} {target : Target}
    (marked : Grammar.marks (tokenize line) = .word "set" :: (front ++ rest))
    (takes : Takes deviceNode (front ++ rest) (.device arg) rest) (many : TakesMany propertyNode rest items [.stop])
    (leaves : itemsOfAll items = items) (some_item : items ≠ []) (stands : directory.target arg = .ok target) :
    directory.parse line
      = (directory.properties target.classCode? items).map fun properties => .set ⟨target, properties⟩ := by
  have mem : (["set"], setCommand) ∈ commandTable := by simp [commandTable]
  have taken : Takes setCommand (.word "set" :: (front ++ rest))
      (.seq [.keyword .command "set", .device arg, .repeated items]) [.stop] :=
    .seq (.cons takes_keyword (.cons takes (.cons (.repeated many some_item) .nil)))
  rw [directory.parse_of_marks mem (List.mem_singleton_self _) marked taken,
    directory.build_of_items (items_target_list leaves)]
  show (directory.set (.device arg :: items)).map _ = _
  simp only [Directory.set, Directory.frontTarget, stands, Except.map, bind, Except.bind]
  cases directory.properties target.classCode? items <;> rfl

theorem parse_set_of_takes {target : Target} {typed : List TypedProperty} (spells : Spells text front)
    (takes : Takes deviceNode (front ++ (typed.flatMap TypedProperty.front ++ [.stop])) (.device arg)
      (typed.flatMap TypedProperty.front ++ [.stop]))
    (stands : directory.target arg = .ok target) (some_property : typed ≠ []) :
    directory.parse (" ".intercalate ("set" :: text :: typed.map TypedProperty.text))
      = .ok (.set ⟨target, typed.map TypedProperty.value⟩) := by
  have some_item : (typed.map fun property => rawProperty property.value) ≠ [] := by simpa using some_property
  have others : SpellsAll (typed.map TypedProperty.text) (typed.flatMap TypedProperty.front) :=
    .map fun property _ => property.spells
  have marked := marks_line (show IsWord "set" by decide) (SpellsAll.cons spells others)
  rw [List.append_assoc] at marked
  rw [parse_set_of_marks marked takes (takesMany_properties typed) (items_map_leaf fun _ _ => rfl) some_item stands,
    directory.properties_typed]
  rfl

/-- A refresh, whose device may be left out. -/
theorem parse_update_of_takes {device : Matched} {command : UpdateCommand} (spells : SpellsAll texts (front ++ marks))
    (takes : Takes (.optional deviceNode) (front ++ (marks ++ [.stop])) device (marks ++ [.stop]))
    (many : TakesMany (.alt [wordNode .updateOption "-force", wordNode .updateOption "-f",
      wordNode .updateOption "--force"]) (marks ++ [.stop]) items [.stop])
    (leaves : itemsOfAll items = items) (built : directory.update (device.items ++ items) = .ok command) :
    directory.parse (" ".intercalate ("update" :: texts)) = .ok (.update command) := by
  obtain ⟨result, takesOptions, optionItems⟩ := takes_any_number many
  have mem : (["update"], updateCommand) ∈ commandTable := by simp [commandTable]
  have taken : Takes updateCommand (.word "update" :: ((front ++ marks) ++ [.stop]))
      (.seq [.keyword .command "update", device, result]) [.stop] := by
    rw [List.append_assoc]
    exact .seq (.cons takes_keyword (.cons takes (.cons takesOptions .nil)))
  have flat : (Matched.seq [.keyword .command "update", device, result]).items
      = .keyword .command "update" :: (device.items ++ items) := by
    simp [Matched.items, itemsOfAll, optionItems, leaves]
  refine directory.parse_of_word mem spells taken ?_
  rw [directory.build_of_items flat]
  show (directory.update _).map _ = _
  rw [built]
  rfl

end Target

theorem parse_get {command : GetCommand} (h : (Command.get command).Writable directory) :
    directory.parse (Command.get command).written = .ok (.get command) := by
  obtain ⟨writable, some_epc⟩ := h
  obtain ⟨resolved, front, spells, takes⟩ := Target.takes writable
  have leaves : itemsOfAll ((readingWords command).map readingItem) = (readingWords command).map readingItem :=
    items_map_leaf fun word _ => by cases word <;> rfl
  rw [Command.written, words_get]
  -- the device ends in front of a code or an option, since neither is a class code
  exact parse_get_of_takes spells (.map fun word _ => spells_readingText word) (takes _ (noObject_reading _))
    (takesMany_reading _) leaves resolved (requested_reading command) some_epc

/-! ## Writing -/

theorem noObject_properties (typed : List TypedProperty) :
    NoObject (typed.flatMap TypedProperty.front ++ [.stop]) := by
  cases typed with
  | nil => exact noObject_stop
  | cons property rest => exact noObject_epc property.epc

theorem parse_set {command : SetCommand} (h : (Command.set command).Writable directory) :
    directory.parse (Command.set command).written = .ok (.set command) := by
  obtain ⟨target, properties⟩ := command
  obtain ⟨writable, some_property, values⟩ := h
  obtain ⟨resolved, front, spells, takes⟩ := Target.takes writable
  obtain ⟨typed, texts, rfl⟩ := values.exists_typed
  have some_typed : typed ≠ [] := by simpa using some_property
  have parsed := parse_set_of_takes spells (takes _ (noObject_properties typed)) resolved some_typed
  rw [texts] at parsed
  exact parsed

/-! ## Refreshing -/

/-- The marks of the option of a refresh. -/
def forceMarks (force : Bool) : List Mark := if force then [.word "-force"] else []

theorem takesMany_force (force : Bool) :
    TakesMany (.alt [wordNode .updateOption "-force", wordNode .updateOption "-f",
        wordNode .updateOption "--force"]) (forceMarks force ++ [.stop])
      (if force then [.keyword .updateOption "-force"] else []) [.stop] := by
  have stop : Refuses (.alt [wordNode .updateOption "-force", wordNode .updateOption "-f",
      wordNode .updateOption "--force"]) [.stop] :=
    .alt_cons refuses_keyword_stop (.alt_cons refuses_keyword_stop (.alt_cons refuses_keyword_stop .alt_nil))
  cases force with
  | false => exact .done stop
  | true => exact .more (.alt_head takes_keyword) (by simp [forceMarks]) (.done stop)

theorem noObject_force (force : Bool) : NoObject (forceMarks force ++ [.stop]) := by
  cases force with
  | false => exact noObject_stop
  | true => exact noObject_word (by decide)

theorem refuses_device_force (force : Bool) : Refuses deviceNode (forceMarks force ++ [.stop]) := by
  cases force with
  | false => exact refuses_device_stop
  | true => exact refuses_device_of_dash (by decide)

/-- The target that may be left out, in front of the option. -/
theorem takes_target? {target : Option Target} (h : ∀ own ∈ target, own.Writable directory) (force : Bool) :
    ∃ front result, SpellsAll (target.map Target.toText).toList front
      ∧ Takes (.optional deviceNode) (front ++ (forceMarks force ++ [.stop])) result
          (forceMarks force ++ [.stop])
      ∧ result.items = (target.map fun own => .device own.arg).toList := by
  cases target with
  | none => exact ⟨[], .skipped, .nil, .skip (refuses_device_force force), rfl⟩
  | some own =>
    obtain ⟨-, front, spells, takes⟩ := Target.takes (h own rfl)
    refine ⟨front ++ [], .device own.arg, .cons spells .nil, ?_, rfl⟩
    rw [List.append_nil]
    exact (takes _ (noObject_force force)).optional

theorem update_items {command : UpdateCommand} (h : (Command.update command).Writable directory) :
    directory.update ((command.target.map fun own => .device own.arg).toList
      ++ if command.force then [.keyword .updateOption "-force"] else []) = .ok command := by
  obtain ⟨target, force⟩ := command
  cases target with
  | none => cases force <;> rfl
  | some own =>
    have resolved : directory.target own.arg = .ok own := (Target.takes (h own rfl)).1
    cases force <;> simp [Directory.update, Directory.addUpdateItem, resolved, Except.map, bind, Except.bind] <;> rfl

theorem parse_update {command : UpdateCommand} (h : (Command.update command).Writable directory) :
    directory.parse (Command.update command).written = .ok (.update command) := by
  obtain ⟨front, device, spells, takes, deviceItems⟩ := takes_target? h command.force
  have option : SpellsAll (if command.force then ["-force"] else []) (forceMarks command.force) := by
    cases command.force with
    | false => exact .nil
    | true => exact .cons (.word (by decide)) .nil
  have leaves : itemsOfAll (if command.force then [.keyword .updateOption "-force"] else [])
      = if command.force then [.keyword .updateOption "-force"] else [] := by
    cases command.force <;> rfl
  refine parse_update_of_takes (spells.append option) takes (takesMany_force command.force) leaves ?_
  rw [deviceItems]
  exact update_items h

/-! ## Aliases -/

theorem takes_aliasName {name : String} {after : List Mark} (h : name.toList.head? ≠ some '-') :
    Takes aliasNameNode (.word name :: after) (.name .aliasName name) after :=
  takes_leaf (if_neg h)

/-- A word that starts with no dash is not the option that deletes. -/
theorem ne_delete_of_head {name : String} (h : name.toList.head? ≠ some '-') : name ≠ "-delete" := by
  rintro rfl
  exact h rfl

/-- A name that passes the check starts with no symbol but an underscore. -/
theorem head_ne_of_checkAlias {name : String} (ok : checkAlias name = .ok ()) :
    name.toList.head? ≠ some '-' := by
  intro head
  obtain ⟨rest, chars⟩ := List.head?_eq_some_iff.mp head
  unfold checkAlias at ok
  simp only [chars] at ok
  rw [if_neg (by decide), if_pos (by decide +kernel)] at ok
  simp at ok

theorem parse_alias_list : directory.parse (Command.aliases .list).written = .ok (.aliases .list) := by
  have mem : (["alias"], aliasCommand) ∈ commandTable := by simp [commandTable]
  have taken : Takes aliasCommand (.word "alias" :: [.stop]) (.seq [.keyword .command "alias", .skipped]) [.stop] :=
    .seq (.cons takes_keyword (.cons (.skip (.alt_cons (.seq_head refuses_keyword_stop)
      (.alt_cons (.seq_head refuses_leaf_stop) .alt_nil))) .nil))
  exact directory.parse_of_word mem .nil taken rfl

theorem parse_alias_get {name : String} (word : IsWord name) (head : name.toList.head? ≠ some '-') :
    directory.parse (Command.aliases (.get name)).written = .ok (.aliases (.get name)) := by
  have mem : (["alias"], aliasCommand) ∈ commandTable := by simp [commandTable]
  have taken : Takes aliasCommand (.word "alias" :: ([.word name] ++ [.stop]))
      (.seq [.keyword .command "alias", .seq [.name .aliasName name, .skipped]]) [.stop] :=
    .seq (.cons takes_keyword (.cons (.optional
      (.alt_tail (.seq_head (refuses_keyword (ne_delete_of_head head)))
        (.alt_head (.seq (.cons (takes_aliasName head) (.cons (.skip (.seq_head refuses_device_stop)) .nil))))))
      .nil))
  exact directory.parse_of_word mem (.cons (.word word) .nil) taken rfl

theorem parse_alias_delete {name : String} (word : IsWord name) (head : name.toList.head? ≠ some '-') :
    directory.parse (Command.aliases (.delete name)).written = .ok (.aliases (.delete name)) := by
  have mem : (["alias"], aliasCommand) ∈ commandTable := by simp [commandTable]
  have taken : Takes aliasCommand (.word "alias" :: ([.word "-delete", .word name] ++ [.stop]))
      (.seq [.keyword .command "alias", .seq [.keyword .deleteOption "-delete", .name .aliasName name]])
      [.stop] :=
    .seq (.cons takes_keyword (.cons (.optional
      (.alt_head (.seq (.cons takes_keyword (.cons (takes_aliasName head) .nil))))) .nil))
  exact directory.parse_of_word mem (.cons (.word (by decide)) (.cons (.word word) .nil)) taken rfl

/-- A name, a device and properties bind the name. -/
theorem parse_bind {name text : String} {front : List Mark} {arg : DeviceArg} {device : Specifier}
    (word : IsWord name) (named : checkAlias name = .ok ()) (spells : Spells text front)
    (typed : List TypedProperty)
    (takes : Takes deviceNode (front ++ (typed.flatMap TypedProperty.front ++ [.stop])) (.device arg)
      (typed.flatMap TypedProperty.front ++ [.stop]))
    (stands : directory.specifier arg = .ok device) :
    directory.parse (" ".intercalate ("alias" :: name :: text :: typed.map TypedProperty.text))
      = .ok (.aliases (.bind name ⟨device, typed.map TypedProperty.value⟩)) := by
  have head := head_ne_of_checkAlias named
  obtain ⟨result, takesProperties, resultItems⟩ := takes_any_number (takesMany_properties typed)
  have mem : (["alias"], aliasCommand) ∈ commandTable := by simp [commandTable]
  have texts : SpellsAll (name :: text :: typed.map TypedProperty.text)
      ([.word name] ++ (front ++ typed.flatMap TypedProperty.front)) :=
    .cons (.word word) (.cons spells (.map fun property _ => property.spells))
  have taken : Takes aliasCommand
      (.word "alias" :: (([.word name] ++ (front ++ typed.flatMap TypedProperty.front)) ++ [.stop]))
      (.seq [.keyword .command "alias", .seq [.name .aliasName name, .seq [.device arg, result]]]) [.stop] := by
    rw [List.append_assoc, List.append_assoc]
    refine .seq (.cons takes_keyword (.cons (.optional ?_) .nil))
    -- a name is not the option that deletes, so the second alternative takes the line
    refine .alt_tail (.seq_head (refuses_keyword (ne_delete_of_head head))) (.alt_head ?_)
    exact .seq (.cons (takes_aliasName head) (.cons (.optional
      (.seq (.cons takes (.cons takesProperties .nil)))) .nil))
  have items : (Matched.seq [.keyword .command "alias", .seq [.name .aliasName name,
      .seq [.device arg, result]]]).items
      = .keyword .command "alias" :: .name .aliasName name :: .device arg
        :: typed.map fun property => rawProperty property.value := by
    have leaves : itemsOfAll (typed.map fun property => rawProperty property.value)
        = typed.map fun property => rawProperty property.value := items_map_leaf fun _ _ => rfl
    simp [Matched.items, itemsOfAll, resultItems, leaves]
  have built : directory.aliases (.name .aliasName name :: .device arg
      :: typed.map fun property => rawProperty property.value)
      = .ok (.bind name ⟨device, typed.map TypedProperty.value⟩) := by
    simp only [Directory.aliases, stands, named, Except.mapError, directory.properties_typed, bind, Except.bind]
    rfl
  refine directory.parse_of_word mem texts taken ?_
  rw [directory.build_of_items items]
  show (directory.aliases _).map _ = _
  rw [built]
  rfl

theorem parse_alias_bind {name : String} {criteria : Criteria}
    (h : (Command.aliases (.bind name criteria)).Writable directory) :
    directory.parse (Command.aliases (.bind name criteria)).written = .ok (.aliases (.bind name criteria)) := by
  obtain ⟨⟨word, named⟩, writable, values⟩ := h
  obtain ⟨device, text, value⟩ := Specifier.exists_typed writable
  obtain ⟨typed, texts, properties⟩ := values.exists_typed
  have takesDevice : Takes deviceNode (device.front ++ (typed.flatMap TypedProperty.front ++ [.stop]))
      (.device (.ofSpecifier criteria.device)) (typed.flatMap TypedProperty.front ++ [.stop]) := by
    rw [← value]
    exact device.takes (TypedDevice.EndsBefore.of_noObject (noObject_properties typed))
  have parsed := parse_bind word named device.spells typed takesDevice
    (directory.specifier_ofSpecifier writable.numbered)
  rw [text, texts, properties] at parsed
  exact parsed

/-! ## Groups -/

theorem takes_groupName {name : String} {after : List Mark} (h : GroupWord name) :
    Takes groupNameNode (.word name :: after) (.name .groupName name) after :=
  takes_leaf (if_pos h.at_sign)

/-- Every device starts with a word. -/
theorem head?_front (device : TypedDevice) : ∃ text, device.front.head? = some (.word text) := by
  rcases device with ⟨ip, _ | object⟩ | ⟨classCode, _ | number⟩ <;> exact ⟨_, rfl⟩

/-- A device ends in front of the next one, if an address alone stands in front of an address only. -/
theorem endsBefore_front {device next : TypedDevice} {after : List Mark}
    (h : device.specifier.classCode.isSome ∨ next.specifier.ip.isSome) :
    device.EndsBefore (next.front ++ after) := by
  obtain ⟨text, head⟩ := head?_front next
  have starts : (next.front ++ after).head? = some (.word text) := by
    rw [List.head?_append, head]
    rfl
  rcases device with ⟨ip, _ | object⟩ | object
  · have addressed : next.specifier.ip.isSome := h.resolve_left (by simp [TypedDevice.specifier])
    rcases next with ⟨other, _ | object⟩ | object
    · exact (noObject_ip other).2
    · exact (noObject_ip other).2
    · simp [TypedDevice.specifier] at addressed
  · show _ ≠ _
    simp [starts]
  · show _ ≠ _
    simp [starts]

theorem takesMany_members {typed : List TypedDevice}
    (apart : (typed.map TypedDevice.specifier).IsChain fun member next =>
      member.classCode.isSome ∨ next.ip.isSome) :
    TakesMany deviceNode (typed.flatMap TypedDevice.front ++ [.stop])
      (typed.map fun device => .device (.ofSpecifier device.specifier)) [.stop] := by
  rw [List.isChain_map] at apart
  refine TakesMany.of_items (fun device later tail => device.takes ?_)
    (fun device _ => device.front_ne_nil) refuses_device_stop
  cases later with
  | nil => exact TypedDevice.EndsBefore.of_noObject noObject_stop
  | cons next others =>
    have pair := List.rel_of_isChain_cons_cons (apart.suffix tail)
    rw [List.flatMap_cons, List.append_assoc]
    exact endsBefore_front pair

theorem Directory.specifiers_ofSpecifier (directory : Directory) {members : List Specifier}
    (h : ∀ member ∈ members, member.Writable) :
    directory.specifiers (members.map fun member => .device (.ofSpecifier member)) = .ok members := by
  induction members with
  | nil => rfl
  | cons member rest ih =>
    rw [List.map_cons, Directory.specifiers, directory.specifier_ofSpecifier (h member List.mem_cons_self).numbered,
      ih fun other mem => h other (List.mem_cons_of_mem _ mem)]
    rfl

theorem frontGroup_name {name : String} (h : GroupWord name) (rest : List Matched) :
    Directory.frontGroup (.name .groupName name :: rest) = .ok (some name, rest) := by
  rw [Directory.frontGroup, h.2]

/-- Of the actions on groups the first word decides. -/
theorem takes_group {action : String} {node : Node} {before after : List Mark} {result : Matched}
    (mem : ([action], node) ∈ groupTable) (h : Takes node (.word action :: before) result after) :
    Takes groupCommand (.word "group" :: .word action :: before) (.seq [.keyword .command "group", result])
      after := by
  refine .seq (.cons takes_keyword (.cons ?_ .nil))
  show Takes (.alt (groupTable.map Prod.snd)) _ _ _
  refine Takes.alt_keyed ?_ (by decide) mem List.mem_cons_self h
  intro other mem own
  simp only [groupTable, List.mem_cons, List.not_mem_nil, or_false] at mem
  rcases mem with rfl | rfl | rfl | rfl
  all_goals exact Refuses.seq_head (refuses_keyword (by simpa using own))

/-- An action, a group and members that are taken as arguments. -/
theorem parse_members_of_takes {action name : String} {texts : List String} {front : List Mark}
    {args : List DeviceArg} {command : GroupCommand} (entry : ([action], membersNode action) ∈ groupTable)
    (isWord : IsWord action) (group : GroupWord name) (spells : SpellsAll texts front)
    (many : TakesMany deviceNode (front ++ [.stop]) (args.map .device) [.stop]) (some_member : args ≠ [])
    (build : directory.group (.keyword .groupAction action :: .name .groupName name :: args.map .device)
      = .ok command) :
    directory.parse (" ".intercalate ("group" :: action :: name :: texts)) = .ok (.group command) := by
  have mem : (["group"], groupCommand) ∈ commandTable := by simp [commandTable]
  have some_result : args.map Matched.device ≠ [] := by simp [some_member]
  have taken : Takes groupCommand (.word "group" :: (([.word action] ++ ([.word name] ++ front)) ++ [.stop]))
      (.seq [.keyword .command "group", .seq [.keyword .groupAction action, .name .groupName name,
        .repeated (args.map .device)]]) [.stop] :=
    takes_group entry (.seq (.cons takes_keyword (.cons (takes_groupName group)
      (.cons (.repeated many some_result) .nil))))
  have items : (Matched.seq [.keyword .command "group", .seq [.keyword .groupAction action,
      .name .groupName name, .repeated (args.map .device)]]).items
      = .keyword .command "group" :: .keyword .groupAction action :: .name .groupName name
        :: args.map .device := by
    have leaves : itemsOfAll (args.map Matched.device) = args.map .device := items_map_leaf fun _ _ => rfl
    simp [Matched.items, itemsOfAll, leaves]
  refine directory.parse_of_word mem (.cons (.word isWord) (.cons (.word group.1) spells)) taken ?_
  rw [directory.build_of_items items]
  show (directory.group _).map _ = _
  rw [build]
  rfl

/-- The actions with members, which build their command in the same way. -/
theorem parse_members {action name : String} {members : List Specifier} {command : GroupCommand}
    (entry : ([action], membersNode action) ∈ groupTable) (isWord : IsWord action) (group : GroupWord name)
    (writable : ∀ member ∈ members, member.Writable) (separate : Separate members)
    (build : directory.group (.keyword .groupAction action :: .name .groupName name
      :: members.map fun member => .device (.ofSpecifier member)) = .ok command) :
    directory.parse (" ".intercalate ("group" :: action :: name :: members.map Specifier.toText))
      = .ok (.group command) := by
  obtain ⟨typed, texts, values⟩ := Specifier.exists_typed_list writable
  have args : (members.map DeviceArg.ofSpecifier).map Matched.device
      = members.map fun member => .device (.ofSpecifier member) := by
    rw [List.map_map]
    rfl
  -- here alone two devices stand side by side, and `Separate` is needed
  have many : TakesMany deviceNode (typed.flatMap TypedDevice.front ++ [.stop])
      ((members.map DeviceArg.ofSpecifier).map .device) [.stop] := by
    have apart := separate.2
    rw [args]
    rw [← values] at apart ⊢
    rw [List.map_map]
    exact takesMany_members apart
  have spells : SpellsAll (members.map Specifier.toText) (typed.flatMap TypedDevice.front) := by
    rw [← texts]
    exact .map fun device _ => device.spells
  refine parse_members_of_takes entry isWord group spells many (by simp [separate.1]) ?_
  rw [args]
  exact build

theorem parse_group_add {name : String} {members : List Specifier} (group : GroupWord name)
    (writable : ∀ member ∈ members, member.Writable) (separate : Separate members) :
    directory.parse (Command.group (.add name members)).written = .ok (.group (.add name members)) := by
  refine parse_members (by simp [groupTable]) (by decide) group writable separate ?_
  rw [Directory.group, frontGroup_name group]
  show (directory.specifiers _ >>= _) = _
  rw [directory.specifiers_ofSpecifier writable]
  rfl

theorem parse_group_remove {name : String} {members : List Specifier} (group : GroupWord name)
    (writable : ∀ member ∈ members, member.Writable) (separate : Separate members) :
    directory.parse (Command.group (.remove name members)).written = .ok (.group (.remove name members)) := by
  refine parse_members (by simp [groupTable]) (by decide) group writable separate ?_
  rw [Directory.group, frontGroup_name group]
  show (directory.specifiers _ >>= _) = _
  rw [directory.specifiers_ofSpecifier writable]
  rfl

theorem parse_group_delete {name : String} (group : GroupWord name) :
    directory.parse (Command.group (.delete name)).written = .ok (.group (.delete name)) := by
  have mem : (["group"], groupCommand) ∈ commandTable := by simp [commandTable]
  have taken : Takes groupCommand (.word "group" :: ([.word "delete", .word name] ++ [.stop]))
      (.seq [.keyword .command "group", .seq [.keyword .groupAction "delete", .name .groupName name]])
      [.stop] :=
    takes_group (by simp [groupTable]) (.seq (.cons takes_keyword (.cons (takes_groupName group) .nil)))
  refine directory.parse_of_word mem (.cons (.word (by decide)) (.cons (.word group.1) .nil)) taken ?_
  show (directory.group [.keyword .groupAction "delete", .name .groupName name]).map _ = _
  rw [Directory.group, frontGroup_name group]
  rfl

theorem parse_group_list {name : Option String} (h : ∀ word ∈ name, GroupWord word) :
    directory.parse (Command.group (.list name)).written = .ok (.group (.list name)) := by
  have mem : (["group"], groupCommand) ∈ commandTable := by simp [commandTable]
  have entry : (["list"], Node.seq [wordNode .groupAction "list", .optional groupNameNode]) ∈ groupTable := by
    simp [groupTable]
  cases name with
  | none =>
    have taken : Takes groupCommand (.word "group" :: ([.word "list"] ++ [.stop]))
        (.seq [.keyword .command "group", .seq [.keyword .groupAction "list", .skipped]]) [.stop] :=
      takes_group entry
        (.seq (.cons takes_keyword (.cons (.skip refuses_leaf_stop) .nil)))
    exact directory.parse_of_word mem (.cons (.word (by decide)) .nil) taken rfl
  | some name =>
    have group : GroupWord name := h name rfl
    have taken : Takes groupCommand (.word "group" :: ([.word "list", .word name] ++ [.stop]))
        (.seq [.keyword .command "group", .seq [.keyword .groupAction "list", .name .groupName name]])
        [.stop] :=
      takes_group entry (.seq (.cons takes_keyword (.cons (takes_groupName group).optional .nil)))
    refine directory.parse_of_word mem (.cons (.word (by decide)) (.cons (.word group.1) .nil)) taken ?_
    show (directory.group [.keyword .groupAction "list", .name .groupName name]).map _ = _
    rw [Directory.group, frontGroup_name group]
    rfl

/-! ## The other commands -/

theorem parse_discover : directory.parse Command.discover.written = .ok .discover := by
  have mem : (["discover"], discoverCommand) ∈ commandTable := by simp [commandTable]
  have taken : Takes discoverCommand (.word "discover" :: [.stop]) (.seq [.keyword .command "discover"])
      [.stop] := .seq (.cons takes_keyword .nil)
  exact directory.parse_of_word mem .nil taken rfl

theorem parse_quit : directory.parse Command.quit.written = .ok .quit := by
  have mem : (["quit"], quitCommand) ∈ commandTable := by simp [commandTable]
  have taken : Takes quitCommand (.word "quit" :: [.stop]) (.seq [.keyword .command "quit"]) [.stop] :=
    .seq (.cons takes_keyword .nil)
  exact directory.parse_of_word mem .nil taken rfl

theorem parse_debug (enabled : Option Bool) :
    directory.parse (Command.debug enabled).written = .ok (.debug enabled) := by
  have mem : (["debug"], debugCommand) ∈ commandTable := by simp [commandTable]
  rcases enabled with _ | _ | _
  · have skip : Refuses (.alt [wordNode .onOff "on", wordNode .onOff "off"]) [.stop] :=
      .alt_cons refuses_keyword_stop (.alt_cons refuses_keyword_stop .alt_nil)
    have taken : Takes debugCommand (.word "debug" :: [.stop]) (.seq [.keyword .command "debug", .skipped])
        [.stop] := .seq (.cons takes_keyword (.cons (.skip skip) .nil))
    exact directory.parse_of_word mem .nil taken rfl
  · have taken : Takes debugCommand (.word "debug" :: ([.word "off"] ++ [.stop]))
        (.seq [.keyword .command "debug", .keyword .onOff "off"]) [.stop] :=
      .seq (.cons takes_keyword (.cons (.optional
        (.alt_tail (refuses_keyword (by decide)) (.alt_head takes_keyword))) .nil))
    exact directory.parse_of_word mem (.cons (.word (by decide)) .nil) taken rfl
  · have taken : Takes debugCommand (.word "debug" :: ([.word "on"] ++ [.stop]))
        (.seq [.keyword .command "debug", .keyword .onOff "on"]) [.stop] :=
      .seq (.cons takes_keyword (.cons (.optional (.alt_head takes_keyword)) .nil))
    exact directory.parse_of_word mem (.cons (.word (by decide)) .nil) taken rfl

theorem parse_help {topic : Option String} (h : ∀ word ∈ topic, IsWord word) :
    directory.parse (Command.help topic).written = .ok (.help topic) := by
  have mem : (["help"], helpCommand) ∈ commandTable := by simp [commandTable]
  cases topic with
  | none =>
    have taken : Takes helpCommand (.word "help" :: [.stop]) (.seq [.keyword .command "help", .skipped])
        [.stop] := .seq (.cons takes_keyword (.cons (.skip refuses_leaf_stop) .nil))
    exact directory.parse_of_word mem .nil taken rfl
  | some topic =>
    have word : IsWord topic := h topic rfl
    have nonempty : topic.isEmpty = false := by
      rw [← Bool.not_eq_true, String.isEmpty_iff]
      rintro rfl
      exact word.1 rfl
    have taken : Takes helpCommand (.word "help" :: ([.word topic] ++ [.stop]))
        (.seq [.keyword .command "help", .name .helpTopic topic]) [.stop] := by
      refine .seq (.cons takes_keyword (.cons (.optional (takes_leaf ?_)) .nil))
      rw [Conversion.anyName, Conversion.ofWord, nonempty]
      rfl
    exact directory.parse_of_word mem (.cons (.word word) .nil) taken rfl

/-! ## Every command -/

/-- **A written command is read back**, whatever names the directory holds: the line of a command whose arguments
can be written, and whose members are told apart, parses to exactly this command. -/
theorem parse_written {directory : Directory} {command : Command} (h : command.Writable directory)
    (apart : command.Separable) : directory.parse command.written = .ok command := by
  cases command with
  | discover => exact parse_discover
  | devices _ => exact h.elim
  | get _ => exact parse_get h
  | set _ => exact parse_set h
  | update _ => exact parse_update h
  | aliases command =>
    cases command with
    | list => exact parse_alias_list
    | get _ => exact parse_alias_get h.1 h.2
    | bind _ _ => exact parse_alias_bind h
    | delete _ => exact parse_alias_delete h.1 h.2
  | group command =>
    cases command with
    | add _ _ => exact parse_group_add h.1 h.2 apart
    | remove _ _ => exact parse_group_remove h.1 h.2 apart
    | delete _ => exact parse_group_delete h
    | list _ => exact parse_group_list h
  | debug enabled => exact parse_debug enabled
  | help _ => exact parse_help h
  | quit => exact parse_quit

/-- An address alone, a class alone, and one behind the other. -/
def addressThenClass : List Specifier :=
  [⟨some (.v4 ⟨10, 0, 0, 1⟩), none, none⟩, ⟨none, some ⟨0x0130⟩, none⟩]

/-- The two told apart by the order in which they stand. -/
theorem parse_written_members :
    (Command.group (.add "@g" addressThenClass.reverse)).written = "group add @g 0130 10.0.0.1"
    ∧ (Command.group (.add "@g" addressThenClass.reverse)).Writable .empty
    ∧ (Command.group (.add "@g" addressThenClass.reverse)).Separable
    ∧ Directory.empty.parse (Command.group (.add "@g" addressThenClass.reverse)).written
      = .ok (.group (.add "@g" addressThenClass.reverse)) := by
  have writable : (Command.group (.add "@g" addressThenClass.reverse)).Writable .empty := by
    refine ⟨⟨by decide, rfl⟩, ?_⟩
    intro member mem
    simp only [addressThenClass, List.reverse_cons, List.reverse_nil, List.nil_append, List.cons_append,
      List.mem_cons, List.not_mem_nil, or_false] at mem
    rcases mem with rfl | rfl <;> simp [Specifier.Writable]
  have apart : (Command.group (.add "@g" addressThenClass.reverse)).Separable := by
    simp [Command.Separable, Separate, addressThenClass]
  exact ⟨by decide +kernel, writable, apart, parse_written writable apart⟩

/-- **Members are not always told apart**: an address in front of a class is read as one device, since the line
of the two is the line of the one; and without any member the line is no command. -/
theorem parse_written_ne :
    (Command.group (.add "@g" addressThenClass)).Writable .empty
    ∧ (Command.group (.add "@g" addressThenClass)).written = "group add @g 10.0.0.1 0130"
    ∧ Directory.empty.parse "group add @g 10.0.0.1 0130"
      ≠ .ok (.group (.add "@g" addressThenClass))
    ∧ ∀ command, Directory.empty.parse "group add @g" ≠ .ok command := by
  have group : GroupWord "@g" := ⟨by decide, rfl⟩
  refine ⟨⟨group, ?_⟩, by decide +kernel, ?_, ?_⟩
  · intro member mem
    simp only [addressThenClass, List.mem_cons, List.not_mem_nil, or_false] at mem
    rcases mem with rfl | rfl <;> simp [Specifier.Writable]
  · -- one device with both parts has this line, and is read back
    have line : (Command.group (.add "@g" [⟨some (.v4 ⟨10, 0, 0, 1⟩), some ⟨0x0130⟩, none⟩])).written
        = "group add @g 10.0.0.1 0130" := by decide +kernel
    have read := @parse_group_add Directory.empty "@g"
      [⟨some (.v4 ⟨10, 0, 0, 1⟩), some ⟨0x0130⟩, none⟩] group (by simp [Specifier.Writable])
      ⟨by simp, by simp⟩
    rw [line] at read
    rw [read]
    simp [addressThenClass]
  · intro command
    have refused : (Directory.empty.parse "group add @g").toOption.isNone = true := by
      decide +kernel
    intro ok
    rw [ok] at refused
    simp [Except.toOption] at refused

end DeviceConsole
