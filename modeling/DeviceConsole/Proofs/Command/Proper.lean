import DeviceConsole.Proofs.Command.Agreement

/-!
# `Proofs.Command.Proper` — what a line guarantees of its command

Some checks are made nowhere but on the way from a line to its command, and the site relies on them: a new alias
and a new group are named by the rules, and a group command has a device.

* `Command.Proper` — these guarantees;
* `Directory.proper_of_parse` — every command of a line has them.
-/

namespace DeviceConsole

open Device (checkAlias checkGroup)
open Grammar

/-- What every command of a line satisfies. -/
def Command.Proper : Command → Prop
  | aliases (.bind name _) => checkAlias name = .ok ()
  | group (.add name members) => checkGroup name = .ok () ∧ members ≠ []
  | _ => True

section Inversion

variable {α β : Type} {word : String} {items : List Matched} {command : Command} {directory : Directory}

theorem exists_of_map {ε : Type} {result : Except ε α} {make : α → β} {made : β}
    (h : result.map make = .ok made) : ∃ value, result = .ok value ∧ make value = made := by
  cases result with
  | error error => cases h
  | ok value => exact ⟨value, rfl, Except.ok.inj h⟩

theorem exists_of_bind {ε : Type} {result : Except ε α} {next : α → Except ε β} {made : β}
    (h : result >>= next = .ok made) : ∃ value, result = .ok value ∧ next value = .ok made := by
  cases result with
  | error error => cases h
  | ok value => exact ⟨value, rfl, h⟩

theorem proper_of_aliasItems (h : AliasItems items) {made : AliasCommand}
    (built : directory.aliases items = .ok made) : (Command.aliases made).Proper := by
  cases h with
  | list => cases built; trivial
  | delete label name => cases built; trivial
  | get name => cases built; trivial
  | bind name arg properties =>
    rw [Directory.aliases] at built
    obtain ⟨device, -, built⟩ := exists_of_bind built
    obtain ⟨_, checked, built⟩ := exists_of_bind built
    obtain ⟨read, -, built⟩ := exists_of_bind built
    cases built
    show checkAlias name = .ok ()
    cases ok : checkAlias name with
    | ok _ => rfl
    | error error => rw [ok] at checked; cases checked

/-- As many specifiers as devices. -/
theorem specifiers_ne_nil {specifiers : List Device.Specifier} (some_item : items ≠ [])
    (built : directory.specifiers items = .ok specifiers) : specifiers ≠ [] := by
  obtain ⟨item, rest, rfl⟩ := List.exists_cons_of_ne_nil some_item
  unfold Directory.specifiers at built
  split at built
  · cases ‹_ = []›
  · obtain ⟨first, -, built⟩ := exists_of_bind built
    obtain ⟨others, -, built⟩ := exists_of_bind built
    cases built
    simp
  · cases built

theorem frontGroup_ok {name : String} {rest : List Matched} {found : Option String × List Matched}
    (h : Directory.frontGroup (.name .groupName name :: rest) = .ok found) :
    checkGroup name = .ok () ∧ found = (some name, rest) := by
  rw [Directory.frontGroup] at h
  cases checked : checkGroup name with
  | ok _ => rw [checked] at h; cases h; exact ⟨rfl, rfl⟩
  | error error => rw [checked] at h; cases h

theorem proper_of_groupItems (h : GroupItems items) {made : GroupCommand}
    (built : directory.group items = .ok made) : (Command.group made).Proper := by
  cases h with
  | members name named some_device devices =>
    obtain ⟨_, front, built⟩ := exists_of_bind built
    obtain ⟨checked, rfl⟩ := frontGroup_ok front
    obtain ⟨specifiers, listed, built⟩ := exists_of_bind built
    rcases named with rfl | rfl
    · cases built
      exact ⟨checked, specifiers_ne_nil some_device listed⟩
    · cases built
      trivial
  | delete name =>
    obtain ⟨_, front, built⟩ := exists_of_bind built
    obtain ⟨-, rfl⟩ := frontGroup_ok front
    cases built
    trivial
  | listAll => cases built; trivial
  | listOne name =>
    obtain ⟨_, front, built⟩ := exists_of_bind built
    obtain ⟨-, rfl⟩ := frontGroup_ok front
    cases built
    trivial

theorem proper_of_commandItems (h : CommandItems word items)
    (built : directory.buildNamed word items = .ok command) : command.Proper := by
  cases h with
  | discover => cases built; trivial
  | devices named listed =>
    rcases named with rfl | rfl
    · obtain ⟨_, -, rfl⟩ := exists_of_map built
      trivial
    · obtain ⟨_, -, rfl⟩ := exists_of_map built
      trivial
  | get arg listed =>
    obtain ⟨_, -, rfl⟩ := exists_of_map built
    trivial
  | set arg listed =>
    obtain ⟨_, -, rfl⟩ := exists_of_map built
    trivial
  | update listed =>
    obtain ⟨_, -, rfl⟩ := exists_of_map built
    trivial
  | aliases listed =>
    obtain ⟨made, ok, rfl⟩ := exists_of_map built
    exact proper_of_aliasItems listed ok
  | group listed =>
    obtain ⟨made, ok, rfl⟩ := exists_of_map built
    exact proper_of_groupItems listed ok
  | debug => cases built; trivial
  | help => cases built; trivial
  | quit => cases built; trivial

/-- **Every command of a line is proper**, whatever names the directory holds. -/
theorem Directory.proper_of_parse {directory : Directory} {line : String} {command : Command}
    (h : directory.parse line = .ok command) : command.Proper := by
  unfold Directory.parse at h
  split at h
  · next matched accepted =>
    obtain ⟨entry, mem, yields, -⟩ := command_of_parseTokens accepted
    obtain ⟨word, -, items, flat, shape⟩ := items_of_command mem yields
    rw [directory.build_of_items flat] at h
    exact proper_of_commandItems shape h
  · cases h

end Inversion

end DeviceConsole
