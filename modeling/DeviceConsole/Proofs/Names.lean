import DeviceConsole.Proofs.Command.Bindings
import DeviceConsole.Proofs.Members

/-!
# `Proofs.Names` — names that are bound can be used

A name is checked when it is bound and read by other rules when it is used. On the sites that lines reach the two
agree: an alias is read as its device wherever a device may stand, and its device is known, so that nothing but the
device is found; a group is read as the group, and a command that is aimed at it acts on its members.

* `Reaches.group_words` — groups are named by words, since the lines that made them are made of words;
* `Backend.Understands` — how an alias is read, and what is found for it;
* `Backend.ActsOn`, `Backend.Addresses` — what commands that are aimed at a group do, and how a group is read;
* `names_of_reaches` — every alias and every group of a site that lines reach.
-/

namespace DeviceConsole

open Device (Endpoint Epc Property Specifier checkAlias)
open Grammar

variable {start backend : Backend} {name group : String} {device : Endpoint} {devices members : List Endpoint}

/-! ## Names of groups -/

/-- The group that a command may touch is the one that it names. -/
theorem name?_of_mem_footprint {command : Command} (mem : group ∈ (command.footprint backend).groups) :
    ∃ made, command = .group made ∧ made.name? = some group := by
  cases command with
  | group made =>
    refine ⟨made, rfl, ?_⟩
    cases made with
    | list own => cases mem
    | _ => rw [List.mem_singleton.mp mem]; rfl
  | aliases own => cases own <;> cases mem
  | _ => cases mem

/-- **Groups are named by words**, on every site that lines reach from one without groups. -/
theorem Reaches.group_words (h : Reaches start backend) (first : start.groups = .empty)
    (bound : (backend.groups.get? group).isSome = true) : IsWord group := by
  induction h with
  | refl =>
    rw [first] at bound
    cases bound
  | @line before now line _ ih =>
    unfold Backend.lineOn at bound
    cases parsed : before.directory.parse line with
    | error error =>
      rw [parsed] at bound
      exact ih bound
    | ok command =>
      rw [parsed] at bound
      by_cases touched : group ∈ (command.footprint before).groups
      -- the command names the group, so the group is a word of this line
      · obtain ⟨made, rfl, named⟩ := name?_of_mem_footprint touched
        exact isWord_of_parse_group parsed named
      -- the group was there before, and an earlier line has named it
      · have untouched : (carryOut now command before).2.groups.get? group = before.groups.get? group :=
          (route_modifies before now command).groups group touched
        exact ih (by rw [← untouched]; exact bound)

/-! ## Aliases -/

/-- **The alias is understood as the device**: every line with the alias where a device may stand, whatever the
blanks are, gives the command on the device, in no accepted line it is read as anything else, and for the command
this device is found alone. -/
structure Backend.Understands (backend : Backend) (name : String) (device : Endpoint) : Prop where
  written : ∀ {words command line}, DeviceLine backend.directory name device words command →
    marks (tokenize line) = marks (tokenize (" ".intercalate words)) → backend.directory.parse line = .ok command
  target : ∀ {line keyword rest command}, keyword ∈ targetWords →
    marks (tokenize line) = .word keyword :: .word name :: rest →
    backend.directory.parse line = .ok command → command.target? = some (.device (.exact device))
  bind : ∀ {line other rest command}, other.toList.head? ≠ some '-' →
    marks (tokenize line) = .word "alias" :: .word other :: .word name :: rest →
    backend.directory.parse line = .ok command →
    ∃ properties, command = .aliases (.bind other ⟨.exact device, properties⟩)
  member : ∀ {line action group rest command}, action = "add" ∨ action = "remove" →
    marks (tokenize line) = .word "group" :: .word action :: .word group :: rest → .word name ∈ rest →
    backend.directory.parse line = .ok command →
    ∃ devices made, command = .group made ∧ MemberAction group devices action made ∧ .exact device ∈ devices
  resolves : ∀ allowUnknown,
    runOn (Router.resolve (.device (.exact device)) allowUnknown) backend = (.ok [device], backend)
  found : backend.findDevices (.exact device) = [device]
  selected : (backend.selected ⟨.exact device, []⟩).map Prod.fst = [device]

/-- A known device is found alone. -/
theorem runOn_resolve_exact (known : backend.known.contains device = true) (allowUnknown : Bool) :
    runOn (Router.resolve (.device (.exact device)) allowUnknown) backend = (.ok [device], backend) := by
  unfold Router.resolve
  simp only [runOn_get_bind, findDevices_exact known]
  rfl

theorem Backend.Sound.understands (sound : backend.Sound devices) (bound : backend.aliases.get? name = some device) :
    backend.Understands name device := by
  obtain ⟨known, checked⟩ := sound.aliases name device bound
  have isAlias : AliasOf backend.directory name device := ⟨aliasWord_of_checkAlias checked, bound⟩
  obtain ⟨cache, isKnown⟩ := OrderedMap.contains_iff.mp known
  exact {
    written := fun line same => backend.directory.parse_congr same (parse_deviceLine isAlias line)
    target := fun word => target_of_parse isAlias.names word
    bind := fun head => bind_of_parse isAlias head
    member := fun named => members_of_parse isAlias named
    resolves := runOn_resolve_exact known
    found := findDevices_exact known
    selected := by rw [selected_exact isKnown]; rfl }

/-! ## Groups -/

/-- **The group stands for the members**: a reading or writing that is aimed at it is one of all members, in order, or
of those in front of the first one that lacks a code; a refresh is one of all members; and a listing shows those
members whose caches hold the given properties. -/
structure Backend.ActsOn (backend : Backend) (group : String) (members : List Endpoint) : Prop where
  get : ∀ now epcs skipValidation,
    (∃ rows after, carryOut now (.get ⟨.group group, epcs, skipValidation⟩) backend
        = (.ok { answer := .devices rows, devices := members.length }, after)
      ∧ rows.map DeviceRow.device = members ∧ EachOf (Holding.Read now epcs) members backend after)
    ∨ ∃ done refusing rest missing after, members = done ++ refusing :: rest
      ∧ carryOut now (.get ⟨.group group, epcs, skipValidation⟩) backend
        = (.error (.execution (.failed (.cannotGet refusing missing))), after)
      ∧ missing ≠ [] ∧ (∀ epc, epc ∈ missing ↔ epc ∈ epcs ∧ (backend.holding refusing).value? epc = none)
      ∧ EachOf (Holding.Read now epcs) done backend after
  set : ∀ now properties,
    (∃ rows after, carryOut now (.set ⟨.group group, properties⟩) backend
        = (.ok { answer := .devices rows, devices := members.length }, after)
      ∧ rows.map DeviceRow.device = members ∧ EachOf (Holding.Written properties) members backend after)
    ∨ ∃ done refusing rest wanted after, members = done ++ refusing :: rest
      ∧ carryOut now (.set ⟨.group group, properties⟩) backend
        = (.error (.execution (.failed (.cannotSet refusing wanted.epc))), after)
      ∧ wanted ∈ properties ∧ (backend.holding refusing).value? wanted.epc = none
      ∧ EachOf (Holding.Written properties) done backend after
  update : ∀ now force, ∃ outcome after, carryOut now (.update ⟨some (.group group), force⟩) backend
      = (.ok outcome, after) ∧ EachOf (Holding.Refreshed now force) members backend after
  devices : ∀ now (command : DevicesCommand), command.target = some (.group group) →
    ∃ outcome, carryOut now (.devices command) backend = (.ok outcome, backend)
      ∧ (outcome.answer.rows.map DeviceRow.device).Perm
          (members.filter fun member => command.properties.all ((backend.cacheOf member).contains ·))

theorem Backend.Sound.actsOn (sound : backend.Sound devices) (bound : backend.groups.get? group = some members) :
    backend.ActsOn group members where
  get := reading_members sound bound
  set := writing_members sound bound
  update := refreshing_members sound bound
  devices _ _ target := listing_members sound bound target

/-- **The group is understood**: every line with the group where a target may stand, whatever the blanks are, gives the
command on the group, in no accepted line it is read as anything else, and the command acts on the members. -/
structure Backend.Addresses (backend : Backend) (group : String) (members : List Endpoint) : Prop where
  written : ∀ {words command line}, TargetLine group (.group group) words command →
    marks (tokenize line) = marks (tokenize (" ".intercalate words)) → backend.directory.parse line = .ok command
  target : ∀ {line keyword rest command}, keyword ∈ targetWords →
    marks (tokenize line) = .word keyword :: .word group :: rest →
    backend.directory.parse line = .ok command → command.target? = some (.group group)
  acts : backend.ActsOn group members

theorem Backend.Sound.addresses (sound : backend.Sound devices) (bound : backend.groups.get? group = some members)
    (isWord : IsWord group) : backend.Addresses group members := by
  obtain ⟨-, -, -, checked⟩ := sound.groups group members bound
  have isGroup : (backend.directory.group? group).isSome = true := Option.isSome_iff_exists.mpr ⟨members, bound⟩
  have names := names_group isGroup ⟨isWord, checked⟩
  exact {
    written := fun line same => backend.directory.parse_congr same (parse_targetLine names line)
    target := fun word => target_of_parse names word
    acts := sound.actsOn bound }

/-! ## All names -/

/-- **Names once bound can always be used.** On every site that lines reach, every alias is read as the device that
it is bound to wherever a device may stand, whatever else is on the line, and this device is found, alone; and every
group is read as the group where a target may stand, and the command acts on its members. -/
theorem names_of_reaches {entries : List DeviceEntry} (accepted : Backend.ofEntries entries = .ok start)
    (reached : Reaches start backend) :
    (∀ name device, backend.aliases.get? name = some device → backend.Understands name device)
    ∧ ∀ group members, backend.groups.get? group = some members → backend.Addresses group members := by
  have sound := (sound_of_ofEntries accepted).changes reached.changes
  refine ⟨fun name device bound => sound.understands bound, fun group members bound => ?_⟩
  have noGroups : start.groups = .empty := by
    obtain ⟨network, rfl⟩ := addEntries_network accepted
    rfl
  have isWord := reached.group_words noGroups (Option.isSome_iff_exists.mpr ⟨members, bound⟩)
  exact sound.addresses bound isWord

/-- The site of the group, on which an alias is spelled like a property code. -/
def siteOfAlias : Backend := (siteOfGroup.lineOn 3 "alias ab 10.0.0.1").2

/-- The alias is no property code where a device may stand, also behind an address, and the group is refreshed. -/
theorem names_of_reaches_alike :
    Backend.ofEntries entriesOfTwo = .ok siteOfTwo ∧ Reaches siteOfTwo siteOfAlias
    ∧ siteOfAlias.aliases.get? "ab" = some airConditioner ∧ Epc.ofText? "ab" = some ⟨0xAB⟩
    ∧ siteOfAlias.directory.parse "devices ab"
      = .ok (.devices { target := some (.device (.exact airConditioner)) })
    ∧ siteOfAlias.directory.parse "group remove @all  10.0.0.2 ab"
      = .ok (.group (.remove "@all" [{ ip := some (.v4 ⟨10, 0, 0, 2⟩) }, .exact airConditioner]))
    ∧ siteOfAlias.findDevices (.exact airConditioner) = [airConditioner]
    ∧ siteOfAlias.groups.get? "@all" = some [airConditioner, secondConditioner]
    ∧ siteOfAlias.directory.parse "update @all -force" = .ok (.update ⟨some (.group "@all"), true⟩)
    ∧ ∃ outcome after, carryOut 4 (.update ⟨some (.group "@all"), true⟩) siteOfAlias = (.ok outcome, after)
      ∧ EachOf (Holding.Refreshed 4 true) [airConditioner, secondConditioner] siteOfAlias after := by
  have reached : Reaches siteOfTwo siteOfAlias := .line 3 "alias ab 10.0.0.1" reaches_siteOfGroup
  have named : siteOfAlias.aliases.get? "ab" = some airConditioner := by decide +kernel
  have bound : siteOfAlias.groups.get? "@all" = some [airConditioner, secondConditioner] := by decide +kernel
  obtain ⟨aliases, groups⟩ := names_of_reaches ofEntries_two reached
  have understood := aliases "ab" airConditioner named
  have addressed := groups "@all" _ bound
  have listing := understood.written (.target (.devices [] (.inl rfl)))
    (show marks (tokenize "devices ab") = marks (tokenize (" ".intercalate ("devices" :: "ab" ::
      ([] : List ListItem).map ListItem.text))) by decide +kernel)
  -- the member in front is an address alone, which an alias ends
  have removing := understood.written (@DeviceLine.members _ _ _ _ "@all" _
      [.typed (.address (.ofDotted ⟨10, 0, 0, 2⟩) none)] [] ⟨by decide, rfl⟩
      ⟨by simp, by simp [Member.specifier, TypedDevice.specifier, Specifier.exact]⟩ .remove)
    (show marks (tokenize "group remove @all  10.0.0.2 ab") = marks (tokenize (" ".intercalate ("group" :: "remove" ::
      "@all" :: ([@Member.typed siteOfAlias.directory (.address (.ofDotted ⟨10, 0, 0, 2⟩) none)].map Member.text
        ++ "ab" :: ([] : List (Member siteOfAlias.directory)).map Member.text)))) by decide +kernel)
  have refreshing := addressed.written (.update ["-force"] (by simp))
    (show marks (tokenize "update @all -force") = marks (tokenize (" ".intercalate ("update" :: "@all" ::
      ["-force"]))) by decide +kernel)
  exact ⟨ofEntries_two, reached, named, by decide +kernel, listing, removing, understood.found, bound, refreshing,
    addressed.acts.update 4 true⟩

end DeviceConsole
