import DeviceConsole.Proofs.Router
import DeviceConsole.Session

/-!
# `Proofs.Reasons` — why a command fails

Most commands fail for usual reasons: they name something that is not there, or not exactly one device. A device
that does not answer is a reason of readings and writings alone. That commands are not taken is what a dispatcher
says that is not running, and no command fails with that error, so whoever gets it knows that the command was not
carried out.

* `FailsFor`, `FailsOnly` — the reasons for which an action fails on a site, and on any site;
* `resolve_usual`, `aliasing_usual`, … — questions and commands with usual reasons;
* `route_answers` — only a reading or writing can miss an answer;
* `route_carriedOut`, `carryOut_ne_refusal` — no command fails because commands are not taken.
-/

namespace DeviceConsole

open Device (Criteria Endpoint Epc Property Specifier)

variable {backend : Backend}

/-! ## Reasons -/

/-- If the action fails, then for one of the reasons. -/
def FailsFor {α : Type} (reasons : ConsoleError → Prop) (action : Action α) (backend : Backend) : Prop :=
  ∀ error, (runOn action backend).1 = .error error → reasons error

/-- If the action fails, then not for a missing answer. -/
abbrev Answers {α : Type} (action : Action α) (backend : Backend) : Prop := FailsFor Answered action backend

section FailsFor

variable {α β : Type} {reasons : ConsoleError → Prop}

theorem FailsFor.pure (value : α) : FailsFor reasons (pure value) backend := by
  intro error h
  cases h

theorem FailsFor.of_ok {action : Action α} {value : α} {after : Backend}
    (h : runOn action backend = (.ok value, after)) : FailsFor reasons action backend := by
  intro error failed
  rw [h] at failed
  cases failed

theorem FailsFor.of_error {action : Action α} {error : ConsoleError} {after : Backend}
    (h : runOn action backend = (.error error, after)) (reason : reasons error) :
    FailsFor reasons action backend := by
  intro other failed
  rw [h] at failed
  cases failed
  exact reason

theorem FailsFor.bind {first : Action α} {next : α → Action β} (one : FailsFor reasons first backend)
    (others : ∀ value after, runOn first backend = (.ok value, after) → FailsFor reasons (next value) after) :
    FailsFor reasons (first >>= next) backend := by
  intro error failed
  rw [runOn_bind] at failed
  cases ran : runOn first backend with
  | mk result after =>
    rw [ran] at failed
    cases result with
    | error own =>
      cases failed
      exact one error (by rw [ran])
    | ok value => exact others value after ran error failed

/-- Several runs fail for the reasons of each, if each keeps the condition under which it has these reasons. -/
theorem FailsFor.mapM {f : α → Action β} {P : Backend → Prop} {items : List α}
    (each : ∀ item ∈ items, ∀ backend, P backend →
      P (runOn (f item) backend).2 ∧ FailsFor reasons (f item) backend) :
    ∀ backend, P backend → FailsFor reasons (items.mapM f) backend := by
  induction items with
  | nil => exact fun backend _ => .pure []
  | cons item rest ih =>
    intro backend start
    -- the next item runs on what this one leaves, which satisfies `P` again
    obtain ⟨kept, fails⟩ := each item List.mem_cons_self backend start
    rw [List.mapM_cons]
    refine fails.bind fun value after ran => ?_
    rw [ran] at kept
    refine (ih (fun other mem => each other (List.mem_cons_of_mem _ mem)) after kept).bind fun _ _ _ => ?_
    exact .pure _

theorem Atomic.failsFor {action : Action α} (h : Atomic action reasons backend) :
    FailsFor reasons action backend := by
  rcases h with ⟨value, after, ran, -⟩ | ⟨error, ran, reason⟩
  · exact .of_ok ran
  · exact .of_error ran reason

end FailsFor

/-- If the action fails, on whatever site, then for one of the reasons. -/
def FailsOnly {α : Type} (reasons : ConsoleError → Prop) (action : Action α) : Prop :=
  ∀ backend, FailsFor reasons action backend

/-- The error does not say that commands are not taken. -/
def CarriedOut (error : ConsoleError) : Prop := error ≠ .execution .dispatcherStopped

/-- The error says neither that commands are not taken nor that a device does not answer. -/
def Usual (error : ConsoleError) : Prop := CarriedOut error ∧ Answered error

@[simp]
theorem carriedOut_execution {error : ExecutionError} :
    CarriedOut (.execution error) ↔ error ≠ .dispatcherStopped := by
  simp [CarriedOut]

@[simp]
theorem usual_execution {error : ExecutionError} :
    Usual (.execution error) ↔ error ≠ .dispatcherStopped ∧ ∀ device, error ≠ .failed (.noResponse device) := by
  simp [Usual, Answered]

namespace FailsOnly

variable {α β : Type} {reasons : ConsoleError → Prop}

theorem mono {others : ConsoleError → Prop} {action : Action α} (h : FailsOnly reasons action)
    (weaker : ∀ error, reasons error → others error) : FailsOnly others action :=
  fun backend error failed => weaker error (h backend error failed)

theorem pure (value : α) : FailsOnly reasons (pure value : Action α) := fun _ => .pure value

theorem get : FailsOnly reasons (get : Action Backend) := fun _ => .of_ok rfl

theorem set (next : Backend) : FailsOnly reasons (set next : Action PUnit) := fun _ => .of_ok rfl

theorem fail {error : ExecutionError} (reason : reasons (.execution error)) :
    FailsOnly reasons (Backend.fail error : Action α) := fun _ => .of_error rfl reason

theorem require {error : ExecutionError} (reason : reasons (.execution error)) (value : Option α) :
    FailsOnly reasons (Backend.require error value) := by
  cases value with
  | none => exact fail reason
  | some value => exact pure value

theorem bind {first : Action α} {next : α → Action β} (one : FailsOnly reasons first)
    (others : ∀ value, FailsOnly reasons (next value)) : FailsOnly reasons (first >>= next) :=
  fun backend => (one backend).bind fun value after _ => others value after

theorem mapM {f : α → Action β} (each : ∀ item, FailsOnly reasons (f item)) (items : List α) :
    FailsOnly reasons (items.mapM f) :=
  fun backend =>
    FailsFor.mapM (P := fun _ => True) (fun item _ backend _ => ⟨trivial, each item backend⟩) backend trivial

end FailsOnly

/-! ## Operations and questions -/

theorem aliasSet_usual (name : String) (criteria : Criteria) : FailsOnly Usual (Backend.aliasSet name criteria) := by
  unfold Backend.aliasSet
  refine .bind .get fun backend => ?_
  split
  · exact .bind (.set _) fun _ => .pure _
  · exact .fail (by simp)
  · exact .fail (by simp)

theorem groupRemove_usual (name : String) (devices : List Endpoint) :
    FailsOnly Usual (Backend.groupRemove name devices) :=
  .bind .get fun _ => .bind (.require (by simp) _) fun _ => .set _

theorem groupList_usual (name : Option String) : FailsOnly Usual (Backend.groupList name) := by
  unfold Backend.groupList
  refine .bind .get fun backend => ?_
  cases name with
  | none => exact .pure _
  | some name => exact .bind (.require (by simp) _) fun _ => .pure _

theorem members_usual (name : String) : FailsOnly Usual (Router.members name) :=
  .bind (groupList_usual (some name)) fun _ => .pure _

theorem resolve_usual (target : Target) (allowUnknown : Bool) :
    FailsOnly Usual (Router.resolve target allowUnknown) := by
  cases target with
  | group name => exact members_usual name
  | device specifier =>
    refine .bind .get fun backend => ?_
    split
    · exact .pure _
    · split
      · exact .pure _
      · exact .fail (by simp)
    · exact .fail (by simp)

theorem expand_usual (specifiers : List Specifier) (found : List Endpoint) :
    FailsOnly Usual (Router.expand specifiers found) := by
  induction specifiers generalizing found with
  | nil => exact .pure _
  | cons specifier rest ih =>
    refine .bind .get fun backend => ?_
    dsimp only
    split
    · exact .fail (by simp)
    · exact ih _

/-! ## Commands -/

theorem aliasing_usual (command : AliasCommand) : FailsOnly Usual (Router.aliasing command) := by
  cases command with
  | list => exact .bind (.bind .get fun _ => .pure _) fun _ => .pure _
  | get name => exact .bind (.bind .get fun _ => .require (by simp) _) fun _ => .pure _
  | bind name criteria => exact .bind (aliasSet_usual name criteria) fun _ => .pure _
  | delete name =>
    refine .bind ?_ fun _ => .pure _
    exact .bind .get fun _ => .bind (.require (by simp) _) fun _ => .bind (.set _) fun _ => .pure _

theorem grouping_usual (command : GroupCommand) : FailsOnly Usual (Router.grouping command) := by
  cases command with
  | add name specifiers =>
    exact .bind (expand_usual _ _) fun _ => .bind (.bind .get fun _ => .set _) fun _ => .pure _
  | remove name specifiers =>
    exact .bind (expand_usual _ _) fun _ => .bind (groupRemove_usual name _) fun _ => .pure _
  | delete name =>
    refine .bind ?_ fun _ => .pure _
    exact .bind .get fun _ => .bind (.require (by simp) _) fun _ => .set _
  | list name => exact .bind (groupList_usual name) fun _ => .pure _

theorem listing_usual (command : DevicesCommand) : FailsOnly Usual (Router.listing command) := by
  refine .bind ?_ fun _ => .pure _
  unfold Router.listed
  split
  · exact .bind (members_usual _) fun _ => .bind .get fun _ => .pure _
  · exact .bind .get fun _ => .pure _
  · exact .bind .get fun _ => .pure _

theorem refreshing_usual (now : Time) (command : UpdateCommand) : FailsOnly Usual (Router.refreshing now command) := by
  have targets : FailsOnly Usual (Router.refreshTargets command.target) := by
    unfold Router.refreshTargets
    split
    · exact .pure _
    · exact .pure _
    · exact .bind (members_usual _) fun _ => .pure _
  exact .bind targets fun specifiers =>
    .bind (.mapM (fun _ => .bind .get fun _ => .bind (.set _) fun _ => .pure _) specifiers) fun _ => .pure _

/-- Every command but a reading or writing fails for usual reasons. -/
theorem route_usual (now : Time) {command : Command} (noGet : ∀ own, command ≠ .get own)
    (noSet : ∀ own, command ≠ .set own) : FailsOnly Usual (Router.route now command) := by
  cases command with
  | discover => exact .bind (.bind .get fun _ => .bind (.set _) fun _ => .pure _) fun _ => .pure _
  | devices command => exact listing_usual command
  | get command => exact absurd rfl (noGet command)
  | set command => exact absurd rfl (noSet command)
  | update command => exact refreshing_usual now command
  | aliases command => exact aliasing_usual command
  | group command => exact grouping_usual command
  | debug enabled =>
    cases enabled with
    | none => exact .bind .get fun _ => .pure _
    | some enabled => exact .bind (fun _ => .of_ok rfl) fun _ => .pure _
  | help topic =>
    rw [Router.route]
    split
    · exact .pure _
    · exact fun _ => .of_error rfl (by simp [Usual, CarriedOut, Answered])
  | quit => exact .pure _

/-- **Only a reading or writing can miss an answer.** -/
theorem route_answers (now : Time) {command : Command} (noGet : ∀ own, command ≠ .get own)
    (noSet : ∀ own, command ≠ .set own) : Answers (Router.route now command) backend :=
  (route_usual now noGet noSet).mono (fun _ usual => usual.2) backend

/-! ## Refusals -/

theorem getProperties_carriedOut (now : Time) (device : Endpoint) (epcs : List Epc) (skipValidation : Bool) :
    FailsOnly CarriedOut (Backend.getProperties now device epcs skipValidation) := by
  intro backend error failed
  obtain ⟨result, after, ran, outcome⟩ := getProperties_outcome backend now device epcs skipValidation
  rw [ran] at failed
  cases outcome with
  | unknown => cases failed; simp
  | silent => cases failed; simp
  | lacking => cases failed; simp
  | answered => cases failed

theorem setProperties_carriedOut (now : Time) (device : Endpoint) (properties : List Property) :
    FailsOnly CarriedOut (Backend.setProperties now device properties) := by
  intro backend error failed
  obtain ⟨result, after, ran, outcome⟩ := setProperties_outcome backend now device properties
  rw [ran] at failed
  cases outcome with
  | unknown => cases failed; simp
  | silent => cases failed; simp
  | lacking => cases failed; simp
  | written => cases failed

/-- **No command fails because commands are not taken.** -/
theorem route_carriedOut (now : Time) (command : Command) : FailsOnly CarriedOut (Router.route now command) := by
  have resolved (target : Target) (allowUnknown : Bool) :
      FailsOnly CarriedOut (Router.resolve target allowUnknown) :=
    (resolve_usual target allowUnknown).mono fun _ usual => usual.1
  cases command with
  | get command =>
    exact .bind (resolved _ _) fun devices =>
      .bind (.mapM (fun device => getProperties_carriedOut now device _ _) devices) fun _ => .pure _
  | set command =>
    exact .bind (resolved _ _) fun devices =>
      .bind (.mapM (fun device => setProperties_carriedOut now device _) devices) fun _ => .pure _
  | _ => exact (route_usual now (by simp) (by simp)).mono fun _ usual => usual.1

/-- **The executor of the console does not answer like a dispatcher that takes no commands.** -/
theorem carryOut_ne_refusal (now : Time) (command : Command) (backend : Backend) :
    (carryOut now command backend).1 ≠ Dispatcher.refusal :=
  fun refused => route_carriedOut now command backend _ refused rfl

end DeviceConsole
