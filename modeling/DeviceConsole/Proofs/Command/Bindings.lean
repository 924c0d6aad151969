import DeviceConsole.Proofs.Command.Names
import DeviceConsole.Proofs.Grammar.Forms

/-!
# `Proofs.Command.Bindings` — aliases in the lines that bind names

An alias may also stand for the device that gets another alias, and for a member of a group. Members follow each
other without an end, so here it matters that an alias is never taken for more of the device in front of it, and what
a line says is looked up in the marks that its match took.

* `Member`, `parse_members_line` — members that are typed or named;
* `DeviceLine`, `parse_deviceLine` — the lines with an alias where a device may stand;
* `took_device_alias`, `took_group`, `took_bind` — the marks of a device, and of commands that bind names;
* `bind_of_parse`, `members_of_parse` — behind the alias nothing else can be read in an accepted line;
* `isWord_of_parse_group` — groups are named by words.
-/

namespace DeviceConsole

open Device (ClassCode Endpoint Property Specifier checkAlias checkGroup)
open Grammar

variable {directory : Directory} {name : String} {device : Endpoint}

/-! ## Members -/

/-- A member of a group on a line: a device as it is typed, or an alias. -/
inductive Member (directory : Directory) where
  | typed (device : TypedDevice)
  | named (name : String) (device : Endpoint) (isAlias : AliasOf directory name device)

namespace Member

/-- The words of the member. -/
def text : Member directory → String
  | typed device => device.text
  | named name _ _ => name

/-- The marks of the member. -/
def front : Member directory → List Mark
  | typed device => device.front
  | named name _ _ => [.word name]

/-- The member as the grammar reads it. -/
def arg : Member directory → DeviceArg
  | typed device => .ofSpecifier device.specifier
  | named name _ _ => .aliased name

/-- The devices that are meant. -/
def specifier : Member directory → Specifier
  | typed device => device.specifier
  | named _ device _ => .exact device

theorem spells (member : Member directory) : Spells member.text member.front := by
  cases member with
  | typed device => exact device.spells
  | named name device isAlias => exact .word isAlias.word.isWord

theorem front_ne_nil (member : Member directory) : member.front ≠ [] := by
  cases member with
  | typed device => exact device.front_ne_nil
  | named name device isAlias => simp [front]

theorem stands (member : Member directory) : directory.specifier member.arg = .ok member.specifier := by
  cases member with
  | typed device => exact directory.specifier_ofSpecifier device.numbered
  | named name device isAlias => exact isAlias.specifier

/-- A member is taken in front of the next one, if an address alone stands in front of an address or an alias. -/
theorem takes (member next : Member directory) {after : List Mark}
    (apart : member.specifier.classCode.isSome ∨ next.specifier.ip.isSome) :
    Takes deviceNode (member.front ++ (next.front ++ after)) (.device member.arg) (next.front ++ after) := by
  cases member with
  | named name device isAlias => exact isAlias.names.takes _
  | typed device =>
    refine device.takes ?_
    cases next with
    | typed next => exact endsBefore_front apart
    | named name other isAlias => exact .of_noObject (noObject_word isAlias.word.noClass)

/-- At the end of the line too. -/
theorem takes_last (member : Member directory) :
    Takes deviceNode (member.front ++ [.stop]) (.device member.arg) [.stop] := by
  cases member with
  | named name device isAlias => exact isAlias.names.takes _
  | typed device => exact device.takes (.of_noObject noObject_stop)

end Member

theorem takesMany_member_list {members : List (Member directory)}
    (apart : (members.map Member.specifier).IsChain fun member next => member.classCode.isSome ∨ next.ip.isSome) :
    TakesMany deviceNode (members.flatMap Member.front ++ [.stop]) ((members.map Member.arg).map .device)
      [.stop] := by
  rw [List.isChain_map] at apart
  rw [List.map_map]
  refine TakesMany.of_items (fun member later tail => ?_) (fun member _ => member.front_ne_nil) refuses_device_stop
  cases later with
  | nil => exact member.takes_last
  | cons next others =>
    have pair := List.rel_of_isChain_cons_cons (apart.suffix tail)
    rw [List.flatMap_cons, List.append_assoc]
    exact member.takes next pair

theorem specifiers_members (members : List (Member directory)) :
    directory.specifiers ((members.map Member.arg).map .device) = .ok (members.map Member.specifier) := by
  induction members with
  | nil => rfl
  | cons member rest ih =>
    rw [List.map_cons, List.map_cons, Directory.specifiers, member.stands, ih]
    rfl

/-- The actions with members, as commands. -/
inductive MemberAction (group : String) (devices : List Specifier) : String → GroupCommand → Prop
  | add : MemberAction group devices "add" (.add group devices)
  | remove : MemberAction group devices "remove" (.remove group devices)

/-- A line that adds members to a group or takes them out of it. -/
theorem parse_members_line {action group : String} {made : GroupCommand} (word : GroupWord group)
    {members : List (Member directory)} (separate : Separate (members.map Member.specifier))
    (acts : MemberAction group (members.map Member.specifier) action made) :
    directory.parse (" ".intercalate ("group" :: action :: group :: members.map Member.text)) = .ok (.group made) := by
  have some_member : members.map Member.arg ≠ [] := by
    intro empty
    rw [List.map_eq_nil_iff] at empty
    exact separate.1 (by rw [empty]; rfl)
  have spells : SpellsAll (members.map Member.text) (members.flatMap Member.front) :=
    .map fun member _ => member.spells
  have built : directory.group (.keyword .groupAction action :: .name .groupName group
      :: (members.map Member.arg).map .device) = .ok made := by
    rw [Directory.group, frontGroup_name word]
    show (directory.specifiers _ >>= _) = _
    rw [specifiers_members]
    cases acts <;> rfl
  have many := takesMany_member_list separate.2
  cases acts with
  | add => exact parse_members_of_takes (by simp [groupTable]) (by decide) word spells many some_member built
  | remove => exact parse_members_of_takes (by simp [groupTable]) (by decide) word spells many some_member built

/-! ## Lines with an alias -/

/-- The lines with a name where a device may stand, and the commands that are meant if the name is an alias of the
device. -/
inductive DeviceLine (directory : Directory) (name : String) (device : Endpoint) : List String → Command → Prop
  | target {words : List String} {command : Command} :
      TargetLine name (.device (.exact device)) words command → DeviceLine directory name device words command
  | bind (other : String) (properties : List TypedProperty) : IsWord other → checkAlias other = .ok () →
      DeviceLine directory name device ("alias" :: other :: name :: properties.map TypedProperty.text)
        (.aliases (.bind other ⟨.exact device, properties.map TypedProperty.value⟩))
  | members {action group : String} {made : GroupCommand} (front back : List (Member directory)) :
      GroupWord group → Separate (front.map Member.specifier ++ .exact device :: back.map Member.specifier) →
      MemberAction group (front.map Member.specifier ++ .exact device :: back.map Member.specifier) action made →
      DeviceLine directory name device
        ("group" :: action :: group :: (front.map Member.text ++ name :: back.map Member.text)) (.group made)

/-- **Every line with an alias where a device may stand gives the command on its device.** -/
theorem parse_deviceLine (h : AliasOf directory name device) {words : List String} {command : Command}
    (line : DeviceLine directory name device words command) :
    directory.parse (" ".intercalate words) = .ok command := by
  cases line with
  | target line => exact parse_targetLine h.names line
  | bind other properties word named =>
    exact parse_bind word named (.word h.word.isWord) properties (h.names.takes _) h.specifier
  | members front back word separate acts =>
    have all : ∀ {β : Type} (f : Member directory → β), (front ++ .named name device h :: back).map f
        = front.map f ++ f (.named name device h) :: back.map f := fun f => by rw [List.map_append, List.map_cons]
    have specifiers := all Member.specifier
    have texts := all Member.text
    rw [Member.specifier] at specifiers
    rw [Member.text] at texts
    rw [← specifiers] at separate acts
    rw [← texts]
    exact parse_members_line word separate acts

/-! ## Marks of a device -/

section Took

variable {taken : List Mark} {result : Matched}

/-- Among the marks of an object there is no alias. -/
theorem AliasWord.not_mem_object (h : AliasWord name) {code : ClassCode} {number : Option Nat}
    (form : ObjectForm taken code number) : .word name ∉ taken := by
  have noCode : ∀ {text}, ClassCode.ofText? text = some code → name ≠ text := by
    rintro _ isCode rfl
    rw [h.noClass] at isCode
    cases isCode
  cases form with
  | bare isCode => simpa using noCode isCode
  | @numbered text digits _ number isCode _ isNumber =>
    have noNumber : name ≠ digits := by
      rintro rfl
      obtain ⟨first, rest, chars, digit, -⟩ := h.first
      rw [chars, Text.Decimal.readDigits?_of_head digit] at isNumber
      cases isNumber
    simpa using ⟨noCode isCode, noNumber⟩

/-- **A device that took an alias took nothing else**, and is read as the alias. -/
theorem took_device_alias (h : AliasWord name) (took : deviceNode.Took taken result) (mem : .word name ∈ taken) :
    taken = [.word name] ∧ result = .device (.aliased name) := by
  obtain ⟨arg, rfl, form⟩ := deviceForm_of_took took
  have noAddress : ∀ {text ip}, Net.IpAddress.ofText? text = some ip → name ≠ text := by
    rintro _ ip isAddress rfl
    rw [h.no_address] at isAddress
    cases isAddress
  -- in every form but the last the alias would have to be an address, a part of an object or a group
  cases form with
  | address isAddress => exact absurd (by simpa using mem) (noAddress isAddress)
  | placed isAddress form =>
    rcases List.mem_cons.mp mem with same | later
    · cases same
      exact absurd rfl (noAddress isAddress)
    · exact absurd later (h.not_mem_object form)
  | anywhere form => exact absurd mem (h.not_mem_object form)
  | group at_sign =>
    obtain rfl : name = _ := by simpa using mem
    obtain ⟨first, rest, chars, -, -, ne⟩ := h.first
    rw [chars, List.head?_cons, Option.some.injEq] at at_sign
    exact absurd at_sign ne
  | aliased own =>
    obtain rfl : name = own := by simpa using mem
    exact ⟨rfl, rfl⟩

/-! ## Marks of whole lines -/

/-- What stands behind the word of a command on groups: the marks, and the items that are read. -/
inductive GroupMarks : List Mark → List Matched → Prop
  | members {action : String} (group : String) {rounds : List (List Mark × Matched)} :
      action = "add" ∨ action = "remove" → (∀ round ∈ rounds, deviceNode.Took round.1 round.2) →
      GroupMarks (.word action :: .word group :: rounds.flatMap Prod.fst)
        (.keyword .groupAction action :: .name .groupName group :: rounds.map Prod.snd)
  | delete (group : String) :
      GroupMarks [.word "delete", .word group] [.keyword .groupAction "delete", .name .groupName group]
  | listAll : GroupMarks [.word "list"] [.keyword .groupAction "list"]
  | listOne (group : String) :
      GroupMarks [.word "list", .word group] [.keyword .groupAction "list", .name .groupName group]

/-- A command on groups with an action that has members is of the first form. -/
theorem GroupMarks.members_of_action {back rest : List Mark} {items : List Matched} (form : GroupMarks back items)
    {action group : String} (named : action = "add" ∨ action = "remove")
    (shape : back ++ [.stop] = .word action :: .word group :: rest) :
    ∃ rounds : List (List Mark × Matched), rest = rounds.flatMap Prod.fst ++ [.stop]
      ∧ items = .keyword .groupAction action :: .name .groupName group :: rounds.map Prod.snd
      ∧ ∀ round ∈ rounds, deviceNode.Took round.1 round.2 := by
  cases form with
  | @members own other rounds _ each =>
    simp only [List.cons_append, List.cons.injEq, Mark.word.injEq] at shape
    obtain ⟨rfl, rfl, rfl⟩ := shape
    exact ⟨rounds, rfl, rfl, each⟩
  -- the other forms have other actions
  | delete other =>
    simp only [List.cons_append, List.cons.injEq, Mark.word.injEq] at shape
    obtain ⟨rfl, -⟩ := shape
    simp at named
  | listAll =>
    simp only [List.cons_append, List.cons.injEq, Mark.word.injEq] at shape
    obtain ⟨rfl, -⟩ := shape
    simp at named
  | listOne other =>
    simp only [List.cons_append, List.cons.injEq, Mark.word.injEq] at shape
    obtain ⟨rfl, -⟩ := shape
    simp at named

theorem took_members {action : String} (named : action = "add" ∨ action = "remove")
    (h : (membersNode action).Took taken result) : GroupMarks taken result.items := by
  obtain ⟨_, rfl, _, _, _, _, rfl, rfl, word, _, _, _, _, rfl, rfl, group, _, _, _, _, rfl, rfl, many, rfl, rfl⟩ := h
  obtain ⟨rfl, rfl⟩ := took_keyword word
  obtain ⟨name, rfl, rfl⟩ := took_groupName group
  obtain ⟨rounds, rfl, rfl, each⟩ := many
  have leaves : itemsOfAll (rounds.map Prod.snd) = rounds.map Prod.snd := by
    refine items_map_leaf fun round mem => ?_
    obtain ⟨found, -, converted⟩ := each round mem
    obtain ⟨arg, same⟩ := isDevice_of_conversion converted
    rw [same]
    rfl
  have marked := GroupMarks.members name named each
  simpa [Matched.items, itemsOfAll, leaves] using marked

/-- **The marks of a command on groups** are those of one of its four forms. -/
theorem took_group (h : groupCommand.Took taken result) :
    ∃ back items, taken = .word "group" :: back ∧ result.items = .keyword .command "group" :: items
      ∧ GroupMarks back items := by
  obtain ⟨_, rfl, _, _, back, _, rfl, rfl, word, front, rest, _, _, rfl, rfl, action, rfl, rfl⟩ := h
  obtain ⟨rfl, rfl⟩ := took_keyword word
  refine ⟨front, rest.items, by simp, by simp [Matched.items, itemsOfAll], ?_⟩
  rcases action with adding | removing | deleting | listing | never
  · exact took_members (.inl rfl) adding
  · exact took_members (.inr rfl) removing
  · obtain ⟨_, rfl, _, _, _, _, rfl, rfl, word, _, _, _, _, rfl, rfl, group, rfl, rfl⟩ := deleting
    obtain ⟨rfl, rfl⟩ := took_keyword word
    obtain ⟨name, rfl, rfl⟩ := took_groupName group
    exact .delete name
  · obtain ⟨_, rfl, _, _, _, _, rfl, rfl, word, _, _, _, _, rfl, rfl, group, rfl, rfl⟩ := listing
    obtain ⟨rfl, rfl⟩ := took_keyword word
    rcases group with ⟨rfl, rfl⟩ | group
    · exact .listAll
    · obtain ⟨name, rfl, rfl⟩ := took_groupName group
      exact .listOne name
  · exact never.elim

/-- **A command that binds a name behind which an alias stands** reads the alias as the device. -/
theorem took_bind (h : AliasWord name) {other : String} (head : other.toList.head? ≠ some '-') {rest : List Mark}
    (took : aliasCommand.Took taken result)
    (shape : taken ++ [.stop] = .word "alias" :: .word other :: .word name :: rest) :
    ∃ items, result.items
      = .keyword .command "alias" :: .name .aliasName other :: .device (.aliased name) :: items := by
  obtain ⟨_, rfl, _, _, _, _, rfl, rfl, word, front, body, _, _, rfl, rfl, body, rfl, rfl⟩ := took
  obtain ⟨rfl, rfl⟩ := took_keyword word
  rcases body with ⟨rfl, rfl⟩ | deleting | binding | never
  · simp at shape
  · obtain ⟨_, -, _, _, _, _, rfl, -, option, _, _, _, _, rfl, -, -⟩ := deleting
    obtain ⟨rfl, -⟩ := took_keyword option
    simp only [List.cons_append, List.append_assoc, List.nil_append, List.cons.injEq, Mark.word.injEq] at shape
    obtain ⟨-, rfl, -⟩ := shape
    exact absurd rfl head
  · obtain ⟨_, rfl, _, _, _, _, rfl, rfl, named, _, _, _, _, rfl, rfl, device, rfl, rfl⟩ := binding
    obtain ⟨own, rfl, rfl⟩ := took_aliasName named
    rcases device with ⟨rfl, rfl⟩ | device
    -- without a device the line ends behind the name
    · simp at shape
    · obtain ⟨_, rfl, marks, _, _, _, rfl, rfl, device, _, properties, _, _, rfl, rfl, -, rfl, rfl⟩ := device
      obtain ⟨first, more, rfl⟩ := List.exists_cons_of_ne_nil (advances_device _ _ device)
      simp only [List.cons_append, List.append_assoc, List.nil_append, List.cons.injEq, Mark.word.injEq] at shape
      obtain ⟨-, rfl, rfl, -⟩ := shape
      obtain ⟨-, rfl⟩ := took_device_alias h device List.mem_cons_self
      exact ⟨properties.items, by simp [Matched.items, itemsOfAll]⟩
  · exact never.elim

end Took

/-! ## Accepted lines -/

variable {line : String} {command : Command}

/-- The match of a line that starts with a command word, and the marks that it took. -/
theorem took_of_parse {text : String} {node : Node} (entry : ([text], node) ∈ commandTable) {after : List Mark}
    (marked : marks (tokenize line) = .word text :: after) (parsed : directory.parse line = .ok command) :
    ∃ matched taken, directory.build matched = .ok command ∧ taken ++ [.stop] = .word text :: after
      ∧ node.Took taken matched := by
  unfold Directory.parse at parsed
  split at parsed
  · next matched accepted =>
    have decided := matchTokens_commandGrammar entry (List.mem_singleton.mpr rfl) marked
    obtain ⟨taken, shape, took⟩ := front_of_parseTokens decided accepted
    exact ⟨matched, taken, parsed, by rw [← shape, marked], took⟩
  · cases parsed

/-- **In an accepted line the alias behind a new alias stands for its device**, whatever follows it. -/
theorem bind_of_parse (h : AliasOf directory name device) {other : String} (head : other.toList.head? ≠ some '-')
    {rest : List Mark} (marked : marks (tokenize line) = .word "alias" :: .word other :: .word name :: rest)
    (parsed : directory.parse line = .ok command) :
    ∃ properties, command = .aliases (.bind other ⟨.exact device, properties⟩) := by
  have entry : (["alias"], aliasCommand) ∈ commandTable := by simp [commandTable]
  obtain ⟨matched, taken, built, shape, took⟩ := took_of_parse entry marked parsed
  obtain ⟨items, flat⟩ := took_bind h.word head took shape
  rw [directory.build_of_items flat] at built
  obtain ⟨own, made, rfl⟩ := exists_of_map built
  obtain ⟨found, stands, made⟩ := exists_of_bind made
  rw [h.specifier] at stands
  cases stands
  obtain ⟨_, -, made⟩ := exists_of_bind made
  obtain ⟨properties, -, made⟩ := exists_of_bind made
  cases made
  exact ⟨properties, rfl⟩

/-- The specifier of each device is among the specifiers. -/
theorem mem_of_specifiers {items : List Matched} {devices : List Specifier} {arg : DeviceArg} {own : Specifier}
    (built : directory.specifiers items = .ok devices) (mem : .device arg ∈ items)
    (stands : directory.specifier arg = .ok own) : own ∈ devices := by
  induction items generalizing devices with
  | nil => cases mem
  | cons item rest ih =>
    unfold Directory.specifiers at built
    split at built
    · cases ‹_ = []›
    · next first others same =>
      cases same
      obtain ⟨one, resolved, built⟩ := exists_of_bind built
      obtain ⟨more, all, built⟩ := exists_of_bind built
      cases built
      rcases List.mem_cons.mp mem with same | later
      · cases same
        rw [stands] at resolved
        cases resolved
        exact List.mem_cons_self
      · exact List.mem_cons_of_mem _ (ih all later)
    · cases built

/-- **In an accepted line an alias among the members of a group stands for its device**, whatever stands around
it. -/
theorem members_of_parse (h : AliasOf directory name device) {action group : String}
    (named : action = "add" ∨ action = "remove") {rest : List Mark}
    (marked : marks (tokenize line) = .word "group" :: .word action :: .word group :: rest)
    (mem : .word name ∈ rest) (parsed : directory.parse line = .ok command) :
    ∃ devices made, command = .group made ∧ MemberAction group devices action made ∧ .exact device ∈ devices := by
  have entry : (["group"], groupCommand) ∈ commandTable := by simp [commandTable]
  obtain ⟨matched, taken, built, shape, took⟩ := took_of_parse entry marked parsed
  obtain ⟨back, items, rfl, flat, form⟩ := took_group took
  rw [directory.build_of_items flat] at built
  obtain ⟨made, grouped, rfl⟩ := exists_of_map built
  obtain ⟨rounds, rfl, rfl, each⟩ := form.members_of_action named (List.cons.inj shape).2
  -- the alias is in one of the rounds, and this round took nothing else
  obtain ⟨round, inRounds, inRound⟩ : ∃ round ∈ rounds, .word name ∈ round.1 := by
    simpa [List.mem_flatMap] using mem
  obtain ⟨-, read⟩ := took_device_alias h.word (each round inRounds) inRound
  have listed : .device (.aliased name) ∈ rounds.map Prod.snd := read ▸ List.mem_map_of_mem inRounds
  obtain ⟨_, front, grouped⟩ := exists_of_bind grouped
  obtain ⟨-, rfl⟩ := frontGroup_ok front
  obtain ⟨devices, all, grouped⟩ := exists_of_bind grouped
  have isMember := mem_of_specifiers all listed h.specifier
  rcases named with rfl | rfl
  · cases grouped
    exact ⟨devices, _, rfl, .add, isMember⟩
  · cases grouped
    exact ⟨devices, _, rfl, .remove, isMember⟩

/-! ## Names of groups -/

/-- The group of a command on groups. -/
def GroupCommand.name? : GroupCommand → Option String
  | add group _ | remove group _ | delete group => some group
  | list group => group

theorem word_mem_of_groupMarks {back : List Mark} {items : List Matched} (form : GroupMarks back items)
    {made : GroupCommand} (built : directory.group items = .ok made) {group : String}
    (named : made.name? = some group) : .word group ∈ back := by
  cases form with
  | @members action own rounds actions each =>
    obtain ⟨_, front, built⟩ := exists_of_bind built
    obtain ⟨-, rfl⟩ := frontGroup_ok front
    obtain ⟨devices, -, built⟩ := exists_of_bind built
    rcases actions with rfl | rfl
    · cases built
      cases named
      simp
    · cases built
      cases named
      simp
  | delete own =>
    obtain ⟨_, front, built⟩ := exists_of_bind built
    obtain ⟨-, rfl⟩ := frontGroup_ok front
    cases built
    cases named
    simp
  | listAll =>
    cases built
    cases named
  | listOne own =>
    obtain ⟨_, front, built⟩ := exists_of_bind built
    obtain ⟨-, rfl⟩ := frontGroup_ok front
    cases built
    cases named
    simp

/-- A command on groups is typed with this word. -/
theorem marks_of_parse_group {made : GroupCommand} (parsed : directory.parse line = .ok (.group made)) :
    ∃ after, marks (tokenize line) = .word "group" :: after := by
  unfold Directory.parse at parsed
  split at parsed
  · next matched accepted =>
    obtain ⟨entry, mem, yields, position, text, rest, shape, typed⟩ := command_of_parseTokens accepted
    obtain ⟨word, own, items, flat, form⟩ := items_of_command mem yields
    rw [directory.build_of_items flat] at parsed
    have kind : "group" = commandKind word := (built_of_commandItems form).2 _ parsed
    rw [(same_kind mem own typed).1, commandKind] at kind
    refine ⟨marks rest, ?_⟩
    by_cases isList : text = "list"
    · rw [if_pos isList] at kind
      simp at kind
    · rw [if_neg isList] at kind
      rw [shape, kind]
      rfl
  · cases parsed

/-- **A group is named by a word of the line.** -/
theorem isWord_of_parse_group {made : GroupCommand} (parsed : directory.parse line = .ok (.group made))
    {group : String} (named : made.name? = some group) : IsWord group := by
  have entry : (["group"], groupCommand) ∈ commandTable := by simp [commandTable]
  obtain ⟨after, marked⟩ := marks_of_parse_group parsed
  obtain ⟨matched, taken, built, shape, took⟩ := took_of_parse entry marked parsed
  obtain ⟨back, items, rfl, flat, form⟩ := took_group took
  rw [directory.build_of_items flat] at built
  obtain ⟨own, grouped, same⟩ := exists_of_map built
  cases same
  -- the name was read from a mark of the line, and the words of a line are whole
  have listed : .word group ∈ marks (tokenize line) := by
    rw [marked, ← shape]
    exact List.mem_append_left _ (List.mem_cons_of_mem _ (word_mem_of_groupMarks form grouped named))
  exact isWord_of_mem_marks listed

end DeviceConsole
