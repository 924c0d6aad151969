import DeviceConsole.Proofs.Reachable

/-!
# `Proofs.Footprint` — what a command can touch

A command has a footprint: the devices whose values it may change and the codes of these values, the aliases and
the groups that it may bind or remove. It can be told from the command, the names that it gives and what these
stand for on the site, and everything outside stays as it is, also if the command fails half-way. Caches are
outside of this: to know more of a device does not touch it.

* `Footprint`, `Command.footprint` — what a command may touch;
* `ModifiesOnly` — a site changed nowhere but in a footprint;
* `setProperties_modifies`, `aliasSet_modifies`, … — every operation stays in its footprint;
* `lineOn_modifies` — and so does every line, on every site.
-/

namespace DeviceConsole

open Device (Criteria Endpoint Epc Property Revalued Specifier findEpc? replaceValues revalued_replaceValues)

/-! ## Footprints -/

/-- The part of a site that may change. -/
structure Footprint where
  devices : List Endpoint := []
  epcs : List Epc := []
  aliases : List String := []
  groups : List String := []
  deriving DecidableEq

/-- **The site changed nowhere but in the footprint.** No device comes to the network or leaves it. A device in the
footprint keeps its entries in order, with other values at most in the first entries of codes of the footprint. -/
structure ModifiesOnly (touched : Footprint) (before after : Backend) : Prop where
  keys : after.network.keys = before.network.keys
  devices : ∀ device, device ∉ touched.devices → after.network.get? device = before.network.get? device
  values : ∀ device old, before.network.get? device = some old →
    ∃ new, after.network.get? device = some new ∧ Revalued touched.epcs old new
  aliases : ∀ name, name ∉ touched.aliases → after.aliases.get? name = before.aliases.get? name
  groups : ∀ name, name ∉ touched.groups → after.groups.get? name = before.groups.get? name

/-- The devices that a writing to the target acts on: the members of a group, or the one known device that a
specifier matches. -/
def Target.devicesOn (backend : Backend) : Target → List Endpoint
  | .group name => (backend.groups.get? name).getD []
  | .device specifier =>
    match backend.findDevices specifier with
    | [only] => [only]
    | _ => []

/-- What a command may touch on a site. -/
def Command.footprint (backend : Backend) : Command → Footprint
  | .set command =>
    { devices := command.target.devicesOn backend, epcs := command.properties.map Property.epc }
  | .aliases (.bind name _) => { aliases := [name] }
  | .aliases (.delete name) => { aliases := [name] }
  | .group (.add name _) => { groups := [name] }
  | .group (.remove name _) => { groups := [name] }
  | .group (.delete name) => { groups := [name] }
  | _ => {}

namespace ModifiesOnly

variable {touched : Footprint} {before middle after : Backend}

theorem refl (backend : Backend) : ModifiesOnly touched backend backend :=
  ⟨rfl, fun _ _ => rfl, fun _ old reached => ⟨old, reached, .refl old⟩, fun _ _ => rfl, fun _ _ => rfl⟩

theorem trans (first : ModifiesOnly touched before middle) (second : ModifiesOnly touched middle after) :
    ModifiesOnly touched before after := by
  refine ⟨second.keys.trans first.keys, ?_, ?_, ?_, ?_⟩
  · exact fun device outside => (second.devices device outside).trans (first.devices device outside)
  · intro device old reached
    obtain ⟨between, reachedThen, once⟩ := first.values device old reached
    obtain ⟨new, reachedNow, again⟩ := second.values device between reachedThen
    exact ⟨new, reachedNow, once.trans again⟩
  · exact fun name outside => (second.aliases name outside).trans (first.aliases name outside)
  · exact fun name outside => (second.groups name outside).trans (first.groups name outside)

instance : IsPreorder Backend (ModifiesOnly touched) where
  refl := refl
  trans _ _ _ := trans

/-- Caches and the debug flag lie outside of every footprint. -/
theorem cached (known : OrderedMap Endpoint KnownDevice) (debug : Bool) :
    ModifiesOnly touched before { before with known, debug } :=
  ⟨rfl, fun _ _ => rfl, fun _ old reached => ⟨old, reached, .refl old⟩, fun _ _ => rfl, fun _ _ => rfl⟩

/-- One alias is bound or removed. -/
theorem named {aliases : OrderedMap String Endpoint}
    (others : ∀ name, name ∉ touched.aliases → aliases.get? name = before.aliases.get? name) :
    ModifiesOnly touched before { before with aliases } :=
  ⟨rfl, fun _ _ => rfl, fun _ old reached => ⟨old, reached, .refl old⟩, others, fun _ _ => rfl⟩

/-- One group is bound or removed. -/
theorem grouped {groups : OrderedMap String (List Endpoint)}
    (others : ∀ name, name ∉ touched.groups → groups.get? name = before.groups.get? name) :
    ModifiesOnly touched before { before with groups } :=
  ⟨rfl, fun _ _ => rfl, fun _ old reached => ⟨old, reached, .refl old⟩, fun _ _ => rfl, others⟩

/-- A device on the network gets new values for codes of the footprint. -/
theorem written {device : Endpoint} {onNetwork properties : List Property} (mem : device ∈ touched.devices)
    (epcs : touched.epcs = properties.map Property.epc) (reached : before.network.get? device = some onNetwork)
    (known : OrderedMap Endpoint KnownDevice) :
    ModifiesOnly touched before
      { before with network := before.network.insert device (replaceValues properties onNetwork), known } := by
  refine ⟨?_, ?_, ?_, fun _ _ => rfl, fun _ _ => rfl⟩
  · exact OrderedMap.keys_insert_of_contains (OrderedMap.contains_iff.mpr ⟨onNetwork, reached⟩)
  · intro other outside
    exact OrderedMap.get?_insert_ne fun same => outside (same ▸ mem)
  · intro other old reachedOther
    by_cases same : other = device
    · subst same
      rw [reached] at reachedOther
      cases reachedOther
      refine ⟨_, OrderedMap.get?_insert_self .., ?_⟩
      rw [epcs]
      exact revalued_replaceValues properties onNetwork
    · exact ⟨old, (OrderedMap.get?_insert_ne same).trans reachedOther, .refl old⟩

end ModifiesOnly

/-! ## Operations -/

section Operations

variable {touched : Footprint} {backend : Backend}

theorem getProperties_modifies (now : Time) (device : Endpoint) (epcs : List Epc) (skipValidation : Bool) :
    ModifiesOnly touched backend (runOn (Backend.getProperties now device epcs skipValidation) backend).2 := by
  obtain ⟨result, after, ran, outcome⟩ := getProperties_outcome backend now device epcs skipValidation
  rw [ran]
  cases outcome with
  | unknown => exact .refl backend
  | silent => exact .refl backend
  | lacking => exact .refl backend
  | answered => exact .cached _ _

/-- **A writing** touches values of its codes on its device, on the network as it is then. -/
theorem setProperties_modifies (now : Time) {device : Endpoint} {properties : List Property}
    (mem : device ∈ touched.devices) (epcs : touched.epcs = properties.map Property.epc) :
    ModifiesOnly touched backend (runOn (Backend.setProperties now device properties) backend).2 := by
  obtain ⟨result, after, ran, outcome⟩ := setProperties_outcome backend now device properties
  rw [ran]
  cases outcome with
  | unknown => exact .refl backend
  | silent => exact .refl backend
  | lacking => exact .refl backend
  | written known reached => exact .written mem epcs reached _

theorem aliasSet_modifies {name : String} (mem : name ∈ touched.aliases) (criteria : Criteria) :
    ModifiesOnly touched backend (runOn (Backend.aliasSet name criteria) backend).2 := by
  unfold Backend.aliasSet
  rw [runOn_get_bind]
  split
  · exact .named fun other outside => OrderedMap.get?_insert_ne fun same => outside (same ▸ mem)
  · exact .refl backend
  · exact .refl backend

theorem aliasGet_modifies (name : String) :
    ModifiesOnly touched backend (runOn (Backend.aliasGet name) backend).2 := by
  unfold Backend.aliasGet
  rw [runOn_get_bind]
  cases backend.aliases.get? name <;> exact .refl backend

theorem aliasDelete_modifies {name : String} (mem : name ∈ touched.aliases) :
    ModifiesOnly touched backend (runOn (Backend.aliasDelete name) backend).2 := by
  unfold Backend.aliasDelete
  rw [runOn_get_bind]
  cases backend.aliases.get? name with
  | none => exact .refl backend
  | some device => exact .named fun _ outside => OrderedMap.get?_erase_ne fun same => outside (same ▸ mem)

theorem groupAdd_modifies {name : String} (mem : name ∈ touched.groups) (devices : List Endpoint) :
    ModifiesOnly touched backend (runOn (Backend.groupAdd name devices) backend).2 :=
  .grouped fun _ outside => OrderedMap.get?_insert_ne fun same => outside (same ▸ mem)

theorem groupRemove_modifies {name : String} (mem : name ∈ touched.groups) (devices : List Endpoint) :
    ModifiesOnly touched backend (runOn (Backend.groupRemove name devices) backend).2 := by
  unfold Backend.groupRemove
  rw [runOn_get_bind]
  cases backend.groups.get? name with
  | none => exact .refl backend
  | some own =>
    rw [runOn_require_some]
    refine .grouped fun other outside => ?_
    have ne : other ≠ name := fun same => outside (same ▸ mem)
    split
    · exact OrderedMap.get?_erase_ne ne
    · exact OrderedMap.get?_insert_ne ne

theorem groupDelete_modifies {name : String} (mem : name ∈ touched.groups) :
    ModifiesOnly touched backend (runOn (Backend.groupDelete name) backend).2 := by
  unfold Backend.groupDelete
  rw [runOn_get_bind]
  cases backend.groups.get? name with
  | none => exact .refl backend
  | some own => exact .grouped fun other outside => OrderedMap.get?_erase_ne fun same => outside (same ▸ mem)

theorem groupList_modifies (name : Option String) :
    ModifiesOnly touched backend (runOn (Backend.groupList name) backend).2 := by
  unfold Backend.groupList
  rw [runOn_get_bind]
  cases name with
  | none => exact .refl backend
  | some name =>
    show ModifiesOnly touched backend
      (runOn (Backend.require _ (backend.groups.get? name) >>= fun own => pure [(name, own)]) backend).2
    refine related_map ?_ _
    cases backend.groups.get? name <;> exact .refl backend

end Operations

/-! ## Commands -/

/-- A writing that goes on acts on the devices of its target. -/
theorem Resolved.devicesOn {backend : Backend} {target : Target} {devices : List Endpoint}
    (h : Resolved backend false target devices) : target.devicesOn backend = devices := by
  cases h with
  | members bound =>
    rw [Target.devicesOn, bound]
    rfl
  | one only => rw [Target.devicesOn, only]
  | unknown _ _ never => cases never

section Commands

variable {touched : Footprint} (backend : Backend)

theorem reading_modifies (now : Time) (command : GetCommand) :
    ModifiesOnly touched backend (runOn (Router.reading now command) backend).2 := by
  unfold Router.reading
  rw [runOn_bind]
  rcases resolve_cases command.target command.skipValidation backend with ⟨devices, ran, -⟩ | ⟨error, ran, -⟩
  · rw [ran]
    refine related_map (related_mapM (fun device _ between => ?_) backend) _
    exact getProperties_modifies now device command.epcs command.skipValidation
  · rw [ran]
    exact .refl backend

theorem writing_modifies (now : Time) (command : SetCommand) :
    ModifiesOnly ((Command.set command).footprint backend) backend
      (runOn (Router.writing now command) backend).2 := by
  unfold Router.writing
  rw [runOn_bind]
  rcases resolve_cases command.target false backend with ⟨devices, ran, resolved⟩ | ⟨error, ran, -⟩
  · rw [ran]
    refine related_map (related_mapM (fun device mem between => ?_) backend) _
    -- the footprint is told from the site before the first member, and the members are found there
    have inFootprint : device ∈ ((Command.set command).footprint backend).devices := by
      rw [Command.footprint, resolved.devicesOn]
      exact mem
    exact setProperties_modifies now inFootprint rfl
  · rw [ran]
    exact .refl backend

theorem refreshing_modifies (now : Time) (command : UpdateCommand) :
    ModifiesOnly touched backend (runOn (Router.refreshing now command) backend).2 := by
  unfold Router.refreshing
  rw [runOn_bind]
  rcases refreshTargets_cases command.target backend with ⟨specifiers, ran⟩ | ⟨error, ran⟩
  · rw [ran]
    exact related_map (related_mapM (fun specifier _ between => .cached _ _) backend) _
  · rw [ran]
    exact .refl backend

theorem aliasing_modifies (command : AliasCommand) :
    ModifiesOnly ((Command.aliases command).footprint backend) backend
      (runOn (Router.aliasing command) backend).2 := by
  cases command with
  | list => exact .refl backend
  | get name => exact related_map (aliasGet_modifies name) _
  | bind name criteria => exact related_map (aliasSet_modifies List.mem_cons_self criteria) _
  | delete name => exact related_map (aliasDelete_modifies List.mem_cons_self) _

/-- The question for the devices of a group command changes nothing. -/
theorem expand_bind_modifies {α : Type} {specifiers : List Specifier} {next : List Endpoint → Action α}
    (h : ∀ devices, ModifiesOnly touched backend (runOn (next devices) backend).2) :
    ModifiesOnly touched backend (runOn (Router.expand specifiers [] >>= next) backend).2 := by
  rw [runOn_bind]
  rcases expand_cases specifiers [] backend with ⟨devices, ran, -⟩ | ⟨error, ran⟩
  · rw [ran]
    exact h devices
  · rw [ran]
    exact .refl backend

theorem grouping_modifies (command : GroupCommand) :
    ModifiesOnly ((Command.group command).footprint backend) backend
      (runOn (Router.grouping command) backend).2 := by
  cases command with
  | add name specifiers =>
    exact expand_bind_modifies backend fun devices =>
      related_map (groupAdd_modifies List.mem_cons_self devices) _
  | remove name specifiers =>
    exact expand_bind_modifies backend fun devices =>
      related_map (groupRemove_modifies List.mem_cons_self devices) _
  | delete name => exact related_map (groupDelete_modifies List.mem_cons_self) _
  | list name => exact related_map (groupList_modifies name) _

/-- **Every command stays in its footprint**, whether it succeeds or fails. -/
theorem route_modifies (now : Time) (command : Command) :
    ModifiesOnly (command.footprint backend) backend (runOn (Router.route now command) backend).2 := by
  cases command with
  | discover => exact related_map (.cached _ _) _
  | devices command =>
    show ModifiesOnly _ backend (runOn (Router.listing command) backend).2
    rw [listing_reads]
    exact .refl backend
  | get command => exact reading_modifies backend now command
  | set command => exact writing_modifies backend now command
  | update command => exact refreshing_modifies backend now command
  | aliases command => exact aliasing_modifies backend command
  | group command => exact grouping_modifies backend command
  | debug enabled =>
    cases enabled with
    | none => exact .refl backend
    | some enabled => exact .cached _ _
  | help topic =>
    rw [Router.route]
    cases Help.render topic <;> exact .refl backend
  | quit => exact .refl backend

/-- A writing to a specifier that does not match one known device changes nothing at all. -/
theorem writing_unclear (now : Time) {command : SetCommand} {specifier : Specifier}
    (target : command.target = .device specifier) (unclear : (backend.findDevices specifier).length ≠ 1) :
    (runOn (Router.writing now command) backend).2 = backend := by
  unfold Router.writing
  rw [runOn_bind, target]
  rcases resolve_cases (.device specifier) false backend with ⟨devices, ran, resolved⟩ | ⟨error, ran, -⟩
  · cases resolved with
    | one only => exact absurd (congrArg List.length only) unclear
    | unknown _ _ never => cases never
  · rw [ran]

end Commands

/-! ## Lines -/

/-- **A line changes a site nowhere but in the footprint of its command**, whether it succeeds or fails: values of
devices change only through `set`, only for the devices of its target and in the first entries of the codes that it
names, aliases and groups only where they are bound or removed by name. A line that is no command changes nothing,
and neither does a `set` whose specifier matches no known device or several. -/
theorem lineOn_modifies (now : Time) (line : String) (backend : Backend) :
    (∀ error, backend.directory.parse line = .error error → (backend.lineOn now line).2 = backend)
    ∧ ∀ command, backend.directory.parse line = .ok command →
        ModifiesOnly (command.footprint backend) backend (backend.lineOn now line).2
        ∧ ∀ own specifier, command = .set own → own.target = .device specifier →
            (backend.findDevices specifier).length ≠ 1 → (backend.lineOn now line).2 = backend := by
  unfold Backend.lineOn
  refine ⟨fun error parsed => ?_, fun command parsed => ?_⟩
  · rw [parsed]
  · rw [parsed]
    refine ⟨route_modifies backend now command, ?_⟩
    rintro own specifier rfl target unclear
    exact writing_unclear backend now target unclear

/-- A site of two air conditioners, of which only the first one tells whether it is on. -/
def siteOfTwo : Backend :=
  (Backend.empty.withDevice ⟨.v4 ⟨10, 0, 0, 1⟩, ⟨⟨0x0130⟩, 1⟩⟩ [⟨⟨0x80⟩, [0x30]⟩, ⟨⟨0xB0⟩, [0x41]⟩]).withDevice
    ⟨.v4 ⟨10, 0, 0, 2⟩, ⟨⟨0x0130⟩, 1⟩⟩ [⟨⟨0xB0⟩, [0x42]⟩]

/-- Both are found and put into a group. -/
def siteOfGroup : Backend :=
  ((siteOfTwo.lineOn 1 "discover").2.lineOn 2 "group add @all 10.0.0.1 10.0.0.2").2

/-- The writing that turns off the members of the group. -/
def turnOffAll : SetCommand := ⟨.group "@all", [⟨⟨0x80⟩, [0x31]⟩]⟩

/-- The writing that turns off the one air conditioner, of which there are two. -/
def turnOffOne : SetCommand := ⟨.device { classCode := some ⟨0x0130⟩ }, [⟨⟨0x80⟩, [0x31]⟩]⟩

/-- A writing to the group fails at the second member, and what it has changed by then is in its footprint. A
writing to both without the group changes nothing. -/
theorem lineOn_modifies_half :
    (siteOfGroup.lineOn 3 "set @all 80:31").1
        = .error (.execution (.failed (.cannotSet ⟨.v4 ⟨10, 0, 0, 2⟩, ⟨⟨0x0130⟩, 1⟩⟩ ⟨0x80⟩)))
      ∧ (siteOfGroup.lineOn 3 "set @all 80:31").2.network.get? ⟨.v4 ⟨10, 0, 0, 1⟩, ⟨⟨0x0130⟩, 1⟩⟩
        = some [⟨⟨0x80⟩, [0x31]⟩, ⟨⟨0xB0⟩, [0x41]⟩]
      ∧ ModifiesOnly
          { devices := [⟨.v4 ⟨10, 0, 0, 1⟩, ⟨⟨0x0130⟩, 1⟩⟩, ⟨.v4 ⟨10, 0, 0, 2⟩, ⟨⟨0x0130⟩, 1⟩⟩], epcs := [⟨0x80⟩] }
          siteOfGroup (siteOfGroup.lineOn 3 "set @all 80:31").2
      ∧ (siteOfGroup.lineOn 3 "set 0130 80:31").2 = siteOfGroup := by
  have footprint : (Command.set turnOffAll).footprint siteOfGroup
      = { devices := [⟨.v4 ⟨10, 0, 0, 1⟩, ⟨⟨0x0130⟩, 1⟩⟩, ⟨.v4 ⟨10, 0, 0, 2⟩, ⟨⟨0x0130⟩, 1⟩⟩], epcs := [⟨0x80⟩] } := by
    decide +kernel
  have group := (lineOn_modifies 3 "set @all 80:31" siteOfGroup).2 (.set turnOffAll) (by decide +kernel)
  have one := (lineOn_modifies 3 "set 0130 80:31" siteOfGroup).2 (.set turnOffOne) (by decide +kernel)
  refine ⟨by decide +kernel, by decide +kernel, ?_, ?_⟩
  · rw [← footprint]
    exact group.1
  · exact one.2 turnOffOne _ rfl rfl (by decide +kernel)

end DeviceConsole
