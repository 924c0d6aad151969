import DeviceConsole.Proofs.Backend.Changes
import DeviceConsole.Proofs.Command.Proper
import DeviceConsole.Router

/-!
# `Proofs.Router` — what a command does to a site

A command first asks the site for devices and then carries out operations on them, one after the other. The
questions change nothing (`resolve_cases`, `expand_cases`), so every command is a number of changes, whether it
succeeds or fails half-way (`route_changes`). This needs what a line guarantees of its command
(`Command.Proper`): aliases and groups are named by the rules, and a group is given at least one device.
-/

namespace DeviceConsole

open Device (Endpoint Specifier)

variable {backend : Backend}

/-! ## Actions in sequence -/

section Sequence

variable {α β : Type} {R : Backend → Backend → Prop} [IsPreorder Backend R]

/-- What relates the sites before and after each of two actions relates them over both, also if the first one
fails. -/
theorem related_bind {first : Action α} {next : α → Action β} (one : R backend (runOn first backend).2)
    (others : ∀ value after, runOn first backend = (.ok value, after) → R after (runOn (next value) after).2) :
    R backend (runOn (first >>= next) backend).2 := by
  rw [runOn_bind]
  cases ran : runOn first backend with
  | mk result after =>
    rw [ran] at one
    cases result with
    | error error => exact one
    | ok value => exact IsTrans.trans _ _ _ one (others value after ran)

theorem related_mapM {f : α → Action β} {items : List α}
    (each : ∀ item ∈ items, ∀ backend, R backend (runOn (f item) backend).2) :
    ∀ backend, R backend (runOn (items.mapM f) backend).2 := by
  induction items with
  | nil => exact fun backend => refl backend
  | cons item rest ih =>
    intro backend
    rw [List.mapM_cons]
    refine related_bind (each item List.mem_cons_self backend) fun value after _ => ?_
    refine related_bind (ih (fun other mem => each other (List.mem_cons_of_mem _ mem)) after) fun values last _ => ?_
    exact refl last

/-- An operation with an answer made of its value. -/
theorem related_map {action : Action α} (h : R backend (runOn action backend).2) (answer : α → β) :
    R backend (runOn (action >>= fun value => pure (answer value)) backend).2 :=
  related_bind h fun _ after _ => refl after

theorem Atomic.changes {action : Action α} {reasons : ConsoleError → Prop}
    (h : Atomic action reasons backend) : Changes backend (runOn action backend).2 := by
  rcases h with ⟨value, after, ran, changed⟩ | ⟨error, ran, -⟩
  · rw [ran]
    exact changed
  · rw [ran]

end Sequence

/-! ## Devices that a command acts on -/

theorem runOn_members (name : String) (backend : Backend) :
    runOn (Router.members name) backend
      = match backend.groups.get? name with
        | some own => (.ok own, backend)
        | none => (.error (.execution (.failed (.undefinedGroup name))), backend) := by
  have listed : runOn (Backend.groupList (some name)) backend
      = match backend.groups.get? name with
        | some own => (.ok [(name, own)], backend)
        | none => (.error (.execution (.failed (.undefinedGroup name))), backend) := by
    show runOn (Backend.require _ (backend.groups.get? name) >>= fun own => pure [(name, own)]) backend = _
    cases backend.groups.get? name <;> rfl
  unfold Router.members
  rw [runOn_bind, listed]
  cases backend.groups.get? name with
  | none => rfl
  | some own =>
    show (Except.ok ([(name, own)].flatMap Prod.snd), backend) = (Except.ok own, backend)
    simp

theorem contains_of_findDevices {specifier : Specifier} {device : Endpoint}
    (mem : device ∈ backend.findDevices specifier) : backend.known.contains device = true :=
  OrderedMap.mem_keys.mp (List.mem_filter.mp mem).1

/-- The devices that a reading or writing is aimed at. -/
inductive Resolved (backend : Backend) (allowUnknown : Bool) : Target → List Endpoint → Prop
  | members {name : String} {own : List Endpoint} :
      backend.groups.get? name = some own → Resolved backend allowUnknown (.group name) own
  | one {specifier : Specifier} {device : Endpoint} :
      backend.findDevices specifier = [device] → Resolved backend allowUnknown (.device specifier) [device]
  | unknown {specifier : Specifier} (device : Endpoint) :
      backend.findDevices specifier = [] → allowUnknown = true →
      Resolved backend allowUnknown (.device specifier) [device]

/-- **The question for devices changes nothing.** -/
theorem resolve_cases (target : Target) (allowUnknown : Bool) (backend : Backend) :
    (∃ devices, runOn (Router.resolve target allowUnknown) backend = (.ok devices, backend)
      ∧ Resolved backend allowUnknown target devices)
    ∨ ∃ error, runOn (Router.resolve target allowUnknown) backend = (.error error, backend)
      ∧ Answered error := by
  cases target with
  | group name =>
    show (∃ devices, runOn (Router.members name) backend = _ ∧ _)
      ∨ ∃ error, runOn (Router.members name) backend = _ ∧ _
    rw [runOn_members]
    cases members : backend.groups.get? name with
    | none => exact .inr ⟨_, rfl, fun silent h => by cases h⟩
    | some own => exact .inl ⟨own, rfl, .members members⟩
  | device specifier =>
    unfold Router.resolve
    simp only [runOn_get_bind]
    split
    · next device found => exact .inl ⟨[device], rfl, .one found⟩
    · next nothing =>
      split
      · next ip classCode _ _ _ _ => exact .inl ⟨_, rfl, .unknown _ nothing rfl⟩
      · exact .inr ⟨_, rfl, fun silent h => by cases h⟩
    · exact .inr ⟨_, rfl, fun silent h => by cases h⟩

/-- The devices of a group command are known, and there is one, if there was a specifier or a device before. -/
theorem expand_cases (specifiers : List Specifier) (found : List Endpoint) (backend : Backend) :
    (∃ devices, runOn (Router.expand specifiers found) backend = (.ok devices, backend)
      ∧ (∀ device ∈ devices, device ∈ found ∨ backend.known.contains device = true)
      ∧ (found ≠ [] ∨ specifiers ≠ [] → devices ≠ []))
    ∨ ∃ error, runOn (Router.expand specifiers found) backend = (.error error, backend) := by
  induction specifiers generalizing found with
  | nil => exact .inl ⟨found, rfl, fun device mem => .inl mem, fun h => h.resolve_right (by simp)⟩
  | cons specifier rest ih =>
    rw [Router.expand]
    simp only [runOn_get_bind]
    by_cases nobody : (backend.findDevices specifier).isEmpty = true
    · simp only [nobody, if_true]
      exact .inr ⟨_, rfl⟩
    · simp only [nobody]
      -- a specifier that matches nothing has failed, so something is added
      have some_device : addAllNew found (backend.findDevices specifier) ≠ [] := by
        obtain ⟨device, mem⟩ := List.exists_mem_of_ne_nil _ fun none => nobody (List.isEmpty_iff.mpr none)
        exact List.ne_nil_of_mem (mem_addAllNew.mpr (.inr mem))
      rcases ih (addAllNew found (backend.findDevices specifier)) with ⟨devices, ran, known, nonempty⟩ | failed
      · refine .inl ⟨devices, ran, fun device mem => ?_, fun _ => nonempty (.inl some_device)⟩
        rcases known device mem with old | isKnown
        · exact (mem_addAllNew.mp old).imp id contains_of_findDevices
        · exact .inr isKnown
      · exact .inr failed

/-! ## Commands -/

theorem listing_reads (command : DevicesCommand) (backend : Backend) :
    (runOn (Router.listing command) backend).2 = backend := by
  have reads : (runOn (Router.listed command) backend).2 = backend := by
    unfold Router.listed
    cases command.target with
    | none => rfl
    | some target =>
      cases target with
      | device specifier => rfl
      | group name =>
        show (runOn (Router.members name >>= _) backend).2 = backend
        rw [runOn_bind, runOn_members]
        cases backend.groups.get? name <;> rfl
  unfold Router.listing
  rw [runOn_bind]
  cases ran : runOn (Router.listed command) backend with
  | mk result after =>
    rw [ran] at reads
    cases result with
    | error error => exact reads
    | ok snapshots => exact reads

theorem reading_changes (now : Time) (command : GetCommand) (backend : Backend) :
    Changes backend (runOn (Router.reading now command) backend).2 := by
  unfold Router.reading
  rw [runOn_bind]
  rcases resolve_cases command.target command.skipValidation backend with ⟨devices, ran, -⟩ | ⟨error, ran, -⟩
  · rw [ran]
    exact related_map (related_mapM (fun device _ backend => (getProperties_atomic now device command.epcs
      command.skipValidation).changes) backend) _
  · rw [ran]

theorem writing_changes (now : Time) (command : SetCommand) (backend : Backend) :
    Changes backend (runOn (Router.writing now command) backend).2 := by
  unfold Router.writing
  rw [runOn_bind]
  rcases resolve_cases command.target false backend with ⟨devices, ran, -⟩ | ⟨error, ran, -⟩
  · rw [ran]
    exact related_map (related_mapM (fun device _ backend => (setProperties_atomic now device
      command.properties).changes) backend) _
  · rw [ran]

theorem refreshTargets_cases (target : Option Target) (backend : Backend) :
    (∃ specifiers, runOn (Router.refreshTargets target) backend = (.ok specifiers, backend))
    ∨ ∃ error, runOn (Router.refreshTargets target) backend = (.error error, backend) := by
  cases target with
  | none => exact .inl ⟨_, rfl⟩
  | some target =>
    cases target with
    | device specifier => exact .inl ⟨_, rfl⟩
    | group name =>
      rw [Router.refreshTargets, runOn_bind, runOn_members]
      cases backend.groups.get? name with
      | none => exact .inr ⟨_, rfl⟩
      | some own => exact .inl ⟨_, rfl⟩

theorem refreshing_changes (now : Time) (command : UpdateCommand) (backend : Backend) :
    Changes backend (runOn (Router.refreshing now command) backend).2 := by
  unfold Router.refreshing
  rw [runOn_bind]
  rcases refreshTargets_cases command.target backend with ⟨specifiers, ran⟩ | ⟨error, ran⟩
  · rw [ran]
    refine related_map (related_mapM (fun specifier _ backend => ?_) backend) _
    obtain ⟨count, after, ran, changed⟩ := @updateProperties_changes backend now ⟨specifier, []⟩ command.force
    rw [ran]
    exact changed
  · rw [ran]

theorem aliasing_changes {command : AliasCommand} (proper : (Command.aliases command).Proper)
    (backend : Backend) : Changes backend (runOn (Router.aliasing command) backend).2 := by
  cases command with
  | list => exact .refl
  | get name => exact related_map (aliasGet_atomic name).changes _
  | bind name criteria => exact related_map (aliasSet_atomic proper criteria).changes _
  | delete name => exact related_map (aliasDelete_atomic name).changes _

theorem grouping_changes {command : GroupCommand} (proper : (Command.group command).Proper)
    (backend : Backend) : Changes backend (runOn (Router.grouping command) backend).2 := by
  cases command with
  | add name specifiers =>
    obtain ⟨named, some_member⟩ := proper
    show Changes backend (runOn (Router.expand specifiers [] >>= _) backend).2
    rw [runOn_bind]
    rcases expand_cases specifiers [] backend with ⟨devices, ran, known, nonempty⟩ | ⟨error, ran⟩
    · rw [ran]
      obtain ⟨after, added, changed⟩ := groupAdd_changes named (nonempty (.inr some_member))
        fun device mem => (known device mem).resolve_left (by simp)
      refine related_map ?_ _
      rw [added]
      exact changed
    · rw [ran]
  | remove name specifiers =>
    show Changes backend (runOn (Router.expand specifiers [] >>= _) backend).2
    rw [runOn_bind]
    rcases expand_cases specifiers [] backend with ⟨devices, ran, -⟩ | ⟨error, ran⟩
    · rw [ran]
      exact related_map (groupRemove_atomic name devices).changes _
    · rw [ran]
  | delete name => exact related_map (groupDelete_atomic name).changes _
  | list name => exact related_map (groupList_atomic name).changes _

/-- **Every command of a line is a number of changes**, whether it succeeds or fails. -/
theorem route_changes {command : Command} (proper : command.Proper) (now : Time) (backend : Backend) :
    Changes backend (runOn (Router.route now command) backend).2 := by
  cases command with
  | discover => exact related_map (discover_changes now) _
  | devices command =>
    show Changes backend (runOn (Router.listing command) backend).2
    rw [listing_reads]
  | get command => exact reading_changes now command backend
  | set command => exact writing_changes now command backend
  | update command => exact refreshing_changes now command backend
  | aliases command => exact aliasing_changes proper backend
  | group command => exact grouping_changes proper backend
  | debug enabled =>
    cases enabled with
    | none => exact .refl
    | some enabled =>
      obtain ⟨after, ran, changed⟩ := @setDebug_changes backend enabled
      refine related_map ?_ _
      rw [ran]
      exact changed
  | help topic =>
    rw [Router.route]
    cases Help.render topic with
    | ok text => exact .refl
    | error error => exact .refl
  | quit => exact .refl

end DeviceConsole
