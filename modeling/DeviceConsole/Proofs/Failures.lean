import DeviceConsole.Proofs.Footprint
import DeviceConsole.Proofs.Rows

/-!
# `Proofs.Failures` — what fails changes nothing

An operation checks everything before it writes, and a command asks for its devices before it carries out
operations on them. So a command can only leave something behind when it fails if it carries out several
operations that can fail, and only a reading or writing that is aimed at a group does.

* `Intact` — an action that leaves the site as it was whenever it fails;
* `Total` — an action that cannot fail, and so may stand in front of others;
* `Backend.Operation`, `Operation.intact` — every operation of the site is intact;
* `failure_leaves_site` — and so is every command, unless it is a reading or writing aimed at a group.
-/

namespace DeviceConsole

open Device (Criteria Endpoint Epc Property Specifier)

/-! ## Actions that fail cleanly -/

section Intact

variable {α β : Type} {action first : Action α} {next : α → Action β}

/-- The action leaves the site as it was whenever it fails. -/
def Intact (action : Action α) : Prop :=
  ∀ backend error, (runOn action backend).1 = .error error → (runOn action backend).2 = backend

/-- The action cannot fail. -/
def Total (action : Action α) : Prop :=
  ∀ backend, ∃ value after, runOn action backend = (.ok value, after)

theorem Total.intact (h : Total action) : Intact action := by
  intro backend error failed
  obtain ⟨value, after, ran⟩ := h backend
  rw [ran] at failed
  cases failed

theorem Total.bind (h : Total first) (hnext : ∀ value, Total (next value)) : Total (first >>= next) := by
  intro backend
  obtain ⟨value, after, ran⟩ := h backend
  rw [runOn_bind, ran]
  exact hnext value after

theorem Total.pure (value : α) : Total (Pure.pure value : Action α) := fun backend => ⟨value, backend, rfl⟩

theorem Total.mapM {f : α → Action β} (h : ∀ item, Total (f item)) (items : List α) : Total (items.mapM f) := by
  induction items with
  | nil => exact .pure []
  | cons item rest ih =>
    rw [List.mapM_cons]
    exact (h item).bind fun value => ih.bind fun values => .pure _

/-- A question that is only asked changes nothing, also if it fails. -/
theorem Intact.of_reads (reads : ∀ backend, (runOn action backend).2 = backend) : Intact action :=
  fun backend _ _ => reads backend

theorem Atomic.intact {reasons : Backend → ConsoleError → Prop}
    (h : ∀ backend, Atomic action (reasons backend) backend) : Intact action := by
  intro backend error failed
  rcases h backend with ⟨value, after, ran, -⟩ | ⟨own, ran, -⟩
  · rw [ran] at failed
    cases failed
  · rw [ran]

/-- A question in front of an action changes nothing, so the action finds the site as it was. -/
theorem Intact.after_question (reads : ∀ backend, (runOn first backend).2 = backend)
    (hnext : ∀ backend value, runOn first backend = (.ok value, backend) → Intact (next value)) :
    Intact (first >>= next) := by
  intro backend error failed
  have same := reads backend
  rw [runOn_bind] at failed ⊢
  cases ran : runOn first backend with
  | mk result after =>
    rw [ran] at failed same
    subst same
    cases result with
    | error own => rfl
    | ok value => exact hnext after value ran after error failed

/-- What cannot fail may stand behind an action: the two fail together. -/
theorem Intact.then_total (h : Intact first) (hnext : ∀ value, Total (next value)) : Intact (first >>= next) := by
  intro backend error failed
  rw [runOn_bind] at failed ⊢
  cases ran : runOn first backend with
  | mk result after =>
    rw [ran] at failed
    cases result with
    | error own =>
      have clean := h backend own (by rw [ran])
      rwa [ran] at clean
    | ok value =>
      obtain ⟨last, lastSite, succeeded⟩ := hnext value after
      change (runOn (next value) after).1 = .error error at failed
      rw [succeeded] at failed
      cases failed

theorem Intact.map (h : Intact action) (answer : α → β) :
    Intact (action >>= fun value => Pure.pure (answer value)) :=
  h.then_total fun _ => .pure _

/-- One operation on one device, which is all that a command does that is not aimed at a group. -/
theorem Intact.mapM_one {f : α → Action β} {item : α} (h : Intact (f item)) : Intact ([item].mapM f) := by
  rw [List.mapM_cons, List.mapM_nil]
  exact h.then_total fun value => Total.bind (.pure _) fun values => .pure _

end Intact

/-! ## Operations -/

/-- The operations of the site, with any arguments. -/
inductive Backend.Operation : {α : Type} → Action α → Prop
  | discover (now : Time) : Operation (Backend.discover now)
  | getProperties (now : Time) (device : Endpoint) (epcs : List Epc) (skipValidation : Bool) :
      Operation (Backend.getProperties now device epcs skipValidation)
  | setProperties (now : Time) (device : Endpoint) (properties : List Property) :
      Operation (Backend.setProperties now device properties)
  | updateProperties (now : Time) (criteria : Criteria) (force : Bool) :
      Operation (Backend.updateProperties now criteria force)
  | aliasSet (name : String) (criteria : Criteria) : Operation (Backend.aliasSet name criteria)
  | aliasGet (name : String) : Operation (Backend.aliasGet name)
  | aliasDelete (name : String) : Operation (Backend.aliasDelete name)
  | aliasList : Operation Backend.aliasList
  | groupAdd (group : String) (devices : List Endpoint) : Operation (Backend.groupAdd group devices)
  | groupRemove (group : String) (devices : List Endpoint) : Operation (Backend.groupRemove group devices)
  | groupDelete (group : String) : Operation (Backend.groupDelete group)
  | groupList (group : Option String) : Operation (Backend.groupList group)
  | setDebug (enabled : Bool) : Operation (Backend.setDebug enabled)

/-- A binding fails before it looks at the name, so no rule for names is needed here. -/
theorem aliasSet_intact (name : String) (criteria : Criteria) : Intact (Backend.aliasSet name criteria) := by
  intro backend error failed
  unfold Backend.aliasSet at failed ⊢
  rw [runOn_get_bind] at failed ⊢
  split at failed
  · cases failed
  · rfl
  · rfl

/-- **Every operation of the site leaves it as it was when it fails.** -/
theorem Backend.Operation.intact {α : Type} {action : Action α} (h : Backend.Operation action) : Intact action := by
  cases h with
  | discover now => exact Total.intact fun backend => ⟨_, _, rfl⟩
  | getProperties now device epcs skipValidation =>
    exact Atomic.intact fun backend => getProperties_atomic now device epcs skipValidation
  | setProperties now device properties =>
    exact Atomic.intact fun backend => setProperties_atomic now device properties
  | updateProperties now criteria force => exact Total.intact fun backend => ⟨_, _, rfl⟩
  | aliasSet name criteria => exact aliasSet_intact name criteria
  | aliasGet name => exact Atomic.intact fun backend => aliasGet_atomic name
  | aliasDelete name => exact Atomic.intact fun backend => aliasDelete_atomic name
  | aliasList => exact Total.intact fun backend => ⟨_, _, rfl⟩
  | groupAdd group devices => exact Total.intact fun backend => ⟨_, _, rfl⟩
  | groupRemove group devices => exact Atomic.intact fun backend => groupRemove_atomic group devices
  | groupDelete group => exact Atomic.intact fun backend => groupDelete_atomic group
  | groupList group => exact Atomic.intact fun backend => groupList_atomic group
  | setDebug enabled => exact Total.intact fun backend => ⟨_, _, rfl⟩

/-! ## Commands -/

/-- A reading or writing that is aimed at a group, which acts on its members one after the other. -/
def Command.FansOut : Command → Prop
  | .get command => ∃ name, command.target = .group name
  | .set command => ∃ name, command.target = .group name
  | _ => False

theorem resolve_reads (target : Target) (allowUnknown : Bool) (backend : Backend) :
    (runOn (Router.resolve target allowUnknown) backend).2 = backend := by
  rcases resolve_cases target allowUnknown backend with ⟨devices, ran, -⟩ | ⟨error, ran, -⟩
  · rw [ran]
  · rw [ran]

theorem expand_reads (specifiers : List Specifier) (backend : Backend) :
    (runOn (Router.expand specifiers []) backend).2 = backend := by
  rcases expand_cases specifiers [] backend with ⟨devices, ran, -⟩ | ⟨error, ran⟩
  · rw [ran]
  · rw [ran]

theorem refreshTargets_reads (target : Option Target) (backend : Backend) :
    (runOn (Router.refreshTargets target) backend).2 = backend := by
  rcases refreshTargets_cases target backend with ⟨specifiers, ran⟩ | ⟨error, ran⟩
  · rw [ran]
  · rw [ran]

/-- What is not aimed at a group is resolved to one device. -/
theorem resolve_one {target : Target} (noGroup : ¬ ∃ name, target = .group name) {allowUnknown : Bool}
    {backend : Backend} {devices : List Endpoint}
    (ran : runOn (Router.resolve target allowUnknown) backend = (.ok devices, backend)) :
    ∃ device, devices = [device] := by
  rcases resolve_cases target allowUnknown backend with ⟨own, ranOwn, resolved⟩ | ⟨error, failed, -⟩
  · rw [ranOwn] at ran
    cases ran
    cases resolved with
    | members bound => exact absurd ⟨_, rfl⟩ noGroup
    | one only => exact ⟨_, rfl⟩
    | unknown device nothing allowed => exact ⟨device, rfl⟩
  · rw [failed] at ran
    cases ran

/-- An operation on each device of a target that is not a group, and an answer made of the results. -/
theorem intact_on_one {β γ : Type} {target : Target} (noGroup : ¬ ∃ name, target = .group name)
    (allowUnknown : Bool) {operation : Endpoint → Action β} (h : ∀ device, Intact (operation device))
    (answer : List Endpoint → List β → γ) :
    Intact (Router.resolve target allowUnknown >>= fun devices =>
      devices.mapM operation >>= fun values => pure (answer devices values)) := by
  refine Intact.after_question (resolve_reads target allowUnknown) fun backend devices ran => ?_
  obtain ⟨device, rfl⟩ := resolve_one noGroup ran
  exact (h device).mapM_one.map _

theorem refreshing_intact (now : Time) (command : UpdateCommand) : Intact (Router.refreshing now command) := by
  unfold Router.refreshing
  refine Intact.after_question (refreshTargets_reads command.target) fun backend specifiers ran => ?_
  -- a refresh goes over the members of a group too, but none of its steps can fail
  have refreshed : Total (specifiers.mapM fun specifier =>
      Backend.updateProperties now ⟨specifier, []⟩ command.force) :=
    Total.mapM (fun specifier backend => ⟨_, _, rfl⟩) specifiers
  exact refreshed.intact.map _

theorem aliasing_intact (command : AliasCommand) : Intact (Router.aliasing command) := by
  cases command with
  | list => exact (Backend.Operation.intact .aliasList).map _
  | get name => exact (Backend.Operation.intact (.aliasGet name)).map _
  | bind name criteria => exact (Backend.Operation.intact (.aliasSet name criteria)).map _
  | delete name => exact (Backend.Operation.intact (.aliasDelete name)).map _

theorem grouping_intact (command : GroupCommand) : Intact (Router.grouping command) := by
  cases command with
  | add name specifiers =>
    refine Intact.after_question (expand_reads specifiers) fun backend devices ran => ?_
    exact (Backend.Operation.intact (.groupAdd name devices)).map _
  | remove name specifiers =>
    refine Intact.after_question (expand_reads specifiers) fun backend devices ran => ?_
    exact (Backend.Operation.intact (.groupRemove name devices)).map _
  | delete name => exact (Backend.Operation.intact (.groupDelete name)).map _
  | list name => exact (Backend.Operation.intact (.groupList name)).map _

/-- **Every command that is not a reading or writing of a group leaves the site as it was when it fails.** -/
theorem route_intact (now : Time) {command : Command} (single : ¬ command.FansOut) :
    Intact (Router.route now command) := by
  cases command with
  | discover => exact (Backend.Operation.intact (.discover now)).map _
  | devices command => exact Intact.of_reads (listing_reads command)
  | get command =>
    refine intact_on_one single command.skipValidation (fun device => ?_) _
    exact Backend.Operation.intact (.getProperties now device command.epcs command.skipValidation)
  | set command =>
    refine intact_on_one single false (fun device => ?_) _
    exact Backend.Operation.intact (.setProperties now device command.properties)
  | update command => exact refreshing_intact now command
  | aliases command => exact aliasing_intact command
  | group command => exact grouping_intact command
  | debug enabled =>
    cases enabled with
    | none => exact Intact.of_reads fun backend => rfl
    | some enabled => exact (Backend.Operation.intact (.setDebug enabled)).map _
  | help topic =>
    refine Intact.of_reads fun backend => ?_
    rw [Router.route]
    cases Help.render topic <;> rfl
  | quit => exact Intact.of_reads fun backend => rfl

/-- **What fails changes nothing**: on every site, whatever it holds, an operation with any arguments that fails
leaves the network, what is known with its caches and times, the aliases, the groups and the debug flag exactly as
they were. So does a command that fails, and a line that fails, unless it is a reading or writing aimed at a
group. -/
theorem failure_leaves_site :
    (∀ {α : Type} {operation : Action α}, Backend.Operation operation →
      ∀ backend error, (runOn operation backend).1 = .error error → (runOn operation backend).2 = backend)
    ∧ (∀ now command, ¬ command.FansOut →
      ∀ backend error, (carryOut now command backend).1 = .error error → (carryOut now command backend).2 = backend)
    ∧ ∀ now line (backend : Backend) error,
      (∀ command, backend.directory.parse line = .ok command → ¬ command.FansOut) →
      (backend.lineOn now line).1 = .error error → (backend.lineOn now line).2 = backend := by
  refine ⟨fun operation => operation.intact, fun now command single => route_intact now single, ?_⟩
  intro now line backend error single failed
  unfold Backend.lineOn at failed ⊢
  cases parsed : backend.directory.parse line with
  | error own => rfl
  | ok command =>
    rw [parsed] at failed
    exact route_intact now (single command parsed) backend error failed

/-- The writing of two codes to the first of the two air conditioners, which has only one of them. -/
def turnOffAndMore : SetCommand := ⟨.device (.exact airConditioner), [⟨⟨0x80⟩, [0x31]⟩, ⟨⟨0xC0⟩, [0x01]⟩]⟩

/-- A writing fails at its second code, as an operation, as a command and as a line, and a group command fails at
its second device. The first code keeps its value, and there is no group. -/
theorem failure_leaves_site_half :
    ((runOn (Backend.setProperties 3 airConditioner turnOffAndMore.properties) siteOfGroup).1
        = .error (.execution (.failed (.cannotSet airConditioner ⟨0xC0⟩)))
      ∧ (runOn (Backend.setProperties 3 airConditioner turnOffAndMore.properties) siteOfGroup).2 = siteOfGroup)
    ∧ ((carryOut 3 (.set turnOffAndMore) siteOfGroup).1
        = .error (.execution (.failed (.cannotSet airConditioner ⟨0xC0⟩)))
      ∧ (carryOut 3 (.set turnOffAndMore) siteOfGroup).2 = siteOfGroup)
    ∧ (siteOfGroup.lineOn 3 "group add @new 10.0.0.1 10.0.0.9").1
        = .error (.execution (.deviceNotFound "10.0.0.9"))
      ∧ (siteOfGroup.lineOn 3 "group add @new 10.0.0.1 10.0.0.9").2 = siteOfGroup := by
  have operated : (runOn (Backend.setProperties 3 airConditioner turnOffAndMore.properties) siteOfGroup).1
      = .error (.execution (.failed (.cannotSet airConditioner ⟨0xC0⟩))) := by decide +kernel
  have commanded : (carryOut 3 (.set turnOffAndMore) siteOfGroup).1
      = .error (.execution (.failed (.cannotSet airConditioner ⟨0xC0⟩))) := by decide +kernel
  have lined : (siteOfGroup.lineOn 3 "group add @new 10.0.0.1 10.0.0.9").1
      = .error (.execution (.deviceNotFound "10.0.0.9")) := by decide +kernel
  have oneDevice : ¬ (Command.set turnOffAndMore).FansOut := by
    rintro ⟨name, same⟩
    cases same
  have parsed : siteOfGroup.directory.parse "group add @new 10.0.0.1 10.0.0.9"
      = .ok (.group (.add "@new" [{ ip := some (.v4 ⟨10, 0, 0, 1⟩) }, { ip := some (.v4 ⟨10, 0, 0, 9⟩) }])) := by
    decide +kernel
  have noFan : ∀ command, siteOfGroup.directory.parse "group add @new 10.0.0.1 10.0.0.9" = .ok command →
      ¬ command.FansOut := by
    intro command same
    rw [parsed] at same
    cases same
    exact id
  refine ⟨⟨operated, ?_⟩, ⟨commanded, ?_⟩, lined, ?_⟩
  · exact failure_leaves_site.1 (.setProperties 3 airConditioner turnOffAndMore.properties) siteOfGroup _ operated
  · exact failure_leaves_site.2.1 3 (.set turnOffAndMore) oneDevice siteOfGroup _ commanded
  · exact failure_leaves_site.2.2 3 "group add @new 10.0.0.1 10.0.0.9" siteOfGroup _ noFan lined

end DeviceConsole
