import DeviceConsole.Backend.Operations
import DeviceConsole.Proofs.OrderedMap
import Mathlib.Logic.Relation

/-!
# `Proofs.Backend.Changes` — what an operation can do to a site

Many commands use few operations, and these change the site in even fewer ways. `Change` lists the ways with what
was checked before each, so that an invariant of the site is proved once a way and never once a command.

* `runOn_bind`, `runOn_get_bind`, … — running an action step by step;
* `Change`, `Changes`, `Changes.keeps` — one way, any number of them, and what they keep;
* `getProperties_outcome`, `setProperties_outcome` — all that a reading and a writing can come to;
* `discover_changes`, `getProperties_atomic`, … — every operation makes such changes, or fails and leaves the site
  as it was (`Atomic`).
-/

namespace DeviceConsole

open Device (Criteria Endpoint Epc Property Specifier assignAll checkAlias checkGroup findEpc? replaceValues)
open Relation (ReflTransGen)

/-! ## Running an action -/

/-- The result of an action, and the site that it leaves. -/
def runOn {α : Type} (action : Action α) (backend : Backend) : Except ConsoleError α × Backend :=
  action.run.run backend

section Run

variable {α β : Type} (backend : Backend)

theorem runOn_get_bind (next : Backend → Action α) : runOn (get >>= next) backend = runOn (next backend) backend :=
  rfl

/-- A second action runs on the site that the first one leaves, unless that one fails. -/
theorem runOn_bind (first : Action α) (next : α → Action β) :
    runOn (first >>= next) backend
      = match runOn first backend with
        | (.ok value, after) => runOn (next value) after
        | (.error error, after) => (.error error, after) := by
  unfold runOn
  rw [ExceptT.run_bind, StateT.run_bind]
  show (match first.run.run backend with | (result, after) => _) = _
  cases first.run.run backend with
  | mk result after => cases result <;> rfl

theorem runOn_require_some (error : ExecutionError) (value : α) (next : α → Action β) :
    runOn (Backend.require error (some value) >>= next) backend = runOn (next value) backend := rfl

end Run

/-! ## Ways to change a site -/

/-- The cached properties of a device; none if the device is not known. -/
def Backend.cacheOf (backend : Backend) (device : Endpoint) : List Property :=
  ((backend.known.get? device).map KnownDevice.properties).getD []

/-- What an operation can do to a site, with what it has checked before. -/
inductive Change (backend : Backend) : Backend → Prop
  /-- Caches what the network has of some devices. -/
  | cached {entries : List (Endpoint × KnownDevice)} :
      (∀ entry ∈ entries, backend.network.get? entry.1 = some entry.2.properties) →
      Change backend { backend with known := Backend.cacheAll backend.known entries }
  /-- Adds what a device answers to its cache. -/
  | read {device : Endpoint} {onNetwork : List Property} {epcs : List Epc} {now : Time} :
      backend.network.get? device = some onNetwork →
      (∀ epc ∈ epcs, (findEpc? epc onNetwork).isSome = true) →
      Change backend { backend with
        known := backend.known.insert device
          ⟨assignAll (epcs.filterMap fun epc => findEpc? epc onNetwork) (backend.cacheOf device), now⟩ }
  /-- Gives properties of a known device new values, on the network and in the cache. -/
  | written {device : Endpoint} {known : KnownDevice} {onNetwork properties : List Property} {now : Time} :
      backend.known.get? device = some known → backend.network.get? device = some onNetwork →
      (∀ wanted ∈ properties, (findEpc? wanted.epc onNetwork).isSome = true) →
      Change backend { backend with
        network := backend.network.insert device (replaceValues properties onNetwork)
        known := backend.known.insert device ⟨assignAll properties known.properties, now⟩ }
  /-- Binds an alias to a known device. -/
  | bound {name : String} {device : Endpoint} :
      checkAlias name = .ok () → backend.known.contains device = true →
      Change backend { backend with aliases := backend.aliases.insert name device }
  | unbound (name : String) : Change backend { backend with aliases := backend.aliases.erase name }
  /-- Puts known devices into a group, at least one. -/
  | grouped {name : String} {devices : List Endpoint} :
      checkGroup name = .ok () → devices ≠ [] → (∀ device ∈ devices, backend.known.contains device = true) →
      Change backend { backend with
        groups := backend.groups.insert name (addAllNew ((backend.groups.get? name).getD []) devices) }
  /-- Takes members out of a group, but not all of them. -/
  | shrunk {name : String} {members left : List Endpoint} :
      backend.groups.get? name = some members → left.Sublist members → left ≠ [] →
      Change backend { backend with groups := backend.groups.insert name left }
  | ungrouped (name : String) : Change backend { backend with groups := backend.groups.erase name }
  | debugged (enabled : Bool) : Change backend { backend with debug := enabled }

/-- Any number of changes. -/
abbrev Changes : Backend → Backend → Prop := ReflTransGen Change

/-- What one change keeps, any number of changes keeps. -/
theorem Changes.keeps {P : Backend → Prop} {backend after : Backend} (changed : Changes backend after)
    (step : ∀ {before next : Backend}, Change before next → P before → P next) (holds : P backend) : P after := by
  induction changed with
  | refl => exact holds
  | tail _ last ih => exact step last ih

/-- The error about a device that does not answer. -/
abbrev silence (device : Endpoint) : ConsoleError := .execution (.failed (.noResponse device))

/-- The error is another one. -/
def Answered (error : ConsoleError) : Prop := ∀ device, error ≠ silence device

/-- The action succeeds with changes, or it fails for one of the reasons and leaves the site as it was. -/
def Atomic {α : Type} (action : Action α) (reasons : ConsoleError → Prop) (backend : Backend) : Prop :=
  (∃ value after, runOn action backend = (.ok value, after) ∧ Changes backend after)
  ∨ ∃ error, runOn action backend = (.error error, backend) ∧ reasons error

/-! ## Operations -/

section Operations

variable {backend : Backend}

theorem discover_changes (now : Time) : Changes backend (runOn (Backend.discover now) backend).2 := by
  refine .single (Change.cached ?_)
  intro entry mem
  obtain ⟨⟨device, properties⟩, onNetwork, rfl⟩ := List.mem_map.mp mem
  exact OrderedMap.get?_eq_some_iff.mpr onNetwork

/-- All that a reading can come to: the device is not known, is silent or lacks codes, and nothing changes, or it
has all codes, and their first entries are cached. -/
inductive ReadOutcome (backend : Backend) (now : Time) (device : Endpoint) (epcs : List Epc) (skipValidation : Bool) :
    Except ConsoleError Snapshot → Backend → Prop
  | unknown : ¬ (skipValidation || backend.known.contains device) = true →
      ReadOutcome backend now device epcs skipValidation (.error (.execution (.deviceNotFound device.toText))) backend
  | silent : (skipValidation || backend.known.contains device) = true → backend.network.get? device = none →
      ReadOutcome backend now device epcs skipValidation (.error (silence device)) backend
  | lacking {onNetwork : List Property} {missing : List Epc} :
      (skipValidation || backend.known.contains device) = true → backend.network.get? device = some onNetwork →
      missing ≠ [] → (∀ epc, epc ∈ missing ↔ epc ∈ epcs ∧ findEpc? epc onNetwork = none) →
      ReadOutcome backend now device epcs skipValidation
        (.error (.execution (.failed (.cannotGet device missing)))) backend
  | answered {onNetwork : List Property} :
      (skipValidation || backend.known.contains device) = true → backend.network.get? device = some onNetwork →
      (∀ epc ∈ epcs, (findEpc? epc onNetwork).isSome = true) →
      ReadOutcome backend now device epcs skipValidation
        (.ok ⟨device, backend.aliasOf? device, epcs.filterMap fun epc => findEpc? epc onNetwork, now⟩)
        { backend with
          known := backend.known.insert device
            ⟨assignAll (epcs.filterMap fun epc => findEpc? epc onNetwork) (backend.cacheOf device), now⟩ }

/-- **A reading comes to one of these.** -/
theorem getProperties_outcome (backend : Backend) (now : Time) (device : Endpoint) (epcs : List Epc)
    (skipValidation : Bool) :
    ∃ result after, runOn (Backend.getProperties now device epcs skipValidation) backend = (result, after)
      ∧ ReadOutcome backend now device epcs skipValidation result after := by
  unfold Backend.getProperties
  rw [runOn_get_bind]
  by_cases allowed : (skipValidation || backend.known.contains device) = true
  · rw [if_pos allowed]
    cases onNetwork : backend.network.get? device with
    | none => exact ⟨_, _, rfl, .silent allowed onNetwork⟩
    | some properties =>
      rw [runOn_require_some]
      by_cases supported : (epcs.filter fun epc => (findEpc? epc properties).isNone).isEmpty = true
      · rw [if_pos supported]
        refine ⟨_, _, rfl, .answered allowed onNetwork fun epc mem => ?_⟩
        have found := List.filter_eq_nil_iff.mp (List.isEmpty_iff.mp supported) epc mem
        rwa [Option.isNone_iff_eq_none, ← ne_eq, Option.ne_none_iff_isSome] at found
      · rw [if_neg supported]
        have some_missing : (epcs.filter fun epc => (findEpc? epc properties).isNone) ≠ [] :=
          fun empty => supported (List.isEmpty_iff.mpr empty)
        refine ⟨_, _, rfl, .lacking allowed onNetwork some_missing fun epc => ?_⟩
        rw [List.mem_filter, Option.isNone_iff_eq_none]
  · rw [if_neg allowed]
    exact ⟨_, _, rfl, .unknown allowed⟩

/-- All that a writing can come to: the device is not known, is silent or lacks a code, and nothing changes, or it
has all codes, and gets the new values on the network and in its cache. -/
inductive WriteOutcome (backend : Backend) (now : Time) (device : Endpoint) (properties : List Property) :
    Except ConsoleError Snapshot → Backend → Prop
  | unknown : backend.known.get? device = none →
      WriteOutcome backend now device properties (.error (.execution (.deviceNotFound device.toText))) backend
  | silent : backend.known.contains device = true → backend.network.get? device = none →
      WriteOutcome backend now device properties (.error (silence device)) backend
  | lacking {onNetwork : List Property} {wanted : Property} :
      backend.known.contains device = true → backend.network.get? device = some onNetwork → wanted ∈ properties →
      findEpc? wanted.epc onNetwork = none →
      WriteOutcome backend now device properties
        (.error (.execution (.failed (.cannotSet device wanted.epc)))) backend
  | written {known : KnownDevice} {onNetwork : List Property} :
      backend.known.get? device = some known → backend.network.get? device = some onNetwork →
      (∀ wanted ∈ properties, (findEpc? wanted.epc onNetwork).isSome = true) →
      WriteOutcome backend now device properties (.ok ⟨device, backend.aliasOf? device, properties, now⟩)
        { backend with
          network := backend.network.insert device (replaceValues properties onNetwork)
          known := backend.known.insert device ⟨assignAll properties known.properties, now⟩ }

/-- **A writing comes to one of these.** -/
theorem setProperties_outcome (backend : Backend) (now : Time) (device : Endpoint) (properties : List Property) :
    ∃ result after, runOn (Backend.setProperties now device properties) backend = (result, after)
      ∧ WriteOutcome backend now device properties result after := by
  unfold Backend.setProperties
  rw [runOn_get_bind]
  cases known : backend.known.get? device with
  | none => exact ⟨_, _, rfl, .unknown known⟩
  | some cache =>
    have isKnown : backend.known.contains device = true := OrderedMap.contains_iff.mpr ⟨cache, known⟩
    rw [runOn_require_some]
    cases onNetwork : backend.network.get? device with
    | none => exact ⟨_, _, rfl, .silent isKnown onNetwork⟩
    | some old =>
      rw [runOn_require_some]
      cases missing : properties.find? fun wanted => (findEpc? wanted.epc old).isNone with
      | some wanted =>
        have lacks := List.find?_some missing
        exact ⟨_, _, rfl, .lacking isKnown onNetwork (List.mem_of_find?_eq_some missing)
          (Option.isNone_iff_eq_none.mp lacks)⟩
      | none =>
        refine ⟨_, _, rfl, .written known onNetwork fun wanted mem => ?_⟩
        have found := List.find?_eq_none.mp missing wanted mem
        rwa [Option.isNone_iff_eq_none, ← ne_eq, Option.ne_none_iff_isSome] at found

/-- **A reading** fails without an answer only if the device is not on the network. -/
theorem getProperties_atomic (now : Time) (device : Endpoint) (epcs : List Epc) (skipValidation : Bool) :
    Atomic (Backend.getProperties now device epcs skipValidation)
      (fun error => ∀ silent, error = silence silent →
        silent = device ∧ backend.network.get? device = none) backend := by
  obtain ⟨result, after, ran, outcome⟩ := getProperties_outcome backend now device epcs skipValidation
  cases outcome with
  | unknown =>
    refine .inr ⟨_, ran, ?_⟩
    rintro silent ⟨⟩
  | silent allowed gone =>
    refine .inr ⟨_, ran, ?_⟩
    rintro silent ⟨⟩
    exact ⟨rfl, gone⟩
  | lacking =>
    refine .inr ⟨_, ran, ?_⟩
    rintro silent ⟨⟩
  | answered allowed onNetwork supported => exact .inl ⟨_, _, ran, .single (Change.read onNetwork supported)⟩

/-- **A writing** fails without an answer only if a known device is not on the network. -/
theorem setProperties_atomic (now : Time) (device : Endpoint) (properties : List Property) :
    Atomic (Backend.setProperties now device properties)
      (fun error => ∀ silent, error = silence silent →
        backend.known.contains device = true ∧ backend.network.get? device = none) backend := by
  obtain ⟨result, after, ran, outcome⟩ := setProperties_outcome backend now device properties
  cases outcome with
  | unknown =>
    refine .inr ⟨_, ran, ?_⟩
    rintro silent ⟨⟩
  | silent known gone =>
    refine .inr ⟨_, ran, ?_⟩
    rintro silent ⟨⟩
    exact ⟨known, gone⟩
  | lacking =>
    refine .inr ⟨_, ran, ?_⟩
    rintro silent ⟨⟩
  | written known onNetwork supported => exact .inl ⟨_, _, ran, .single (Change.written known onNetwork supported)⟩

/-- A refresh caches what the network has of the selected devices. -/
theorem updateProperties_changes (now : Time) (criteria : Criteria) (force : Bool) :
    ∃ count after, runOn (Backend.updateProperties now criteria force) backend = (.ok count, after)
      ∧ Changes backend after := by
  refine ⟨_, _, rfl, .single (Change.cached ?_)⟩
  intro entry mem
  obtain ⟨⟨device, cache⟩, -, fresh⟩ := List.mem_filterMap.mp mem
  unfold Backend.refreshed? at fresh
  split at fresh
  · obtain ⟨properties, onNetwork, rfl⟩ := Option.map_eq_some_iff.mp fresh
    exact onNetwork
  · cases fresh

/-- What criteria select is known. -/
theorem contains_of_selected {criteria : Criteria} {entry : Endpoint × KnownDevice}
    (mem : entry ∈ backend.selected criteria) : backend.known.contains entry.1 = true :=
  OrderedMap.contains_iff.mpr ⟨entry.2, OrderedMap.get?_eq_some_iff.mpr (List.mem_filter.mp mem).1⟩

theorem aliasSet_atomic {name : String} (named : checkAlias name = .ok ()) (criteria : Criteria) :
    Atomic (Backend.aliasSet name criteria) Answered backend := by
  unfold Atomic Backend.aliasSet
  rw [runOn_get_bind]
  have known : ∀ entry ∈ backend.selected criteria, backend.known.contains entry.1 = true :=
    fun entry mem => contains_of_selected mem
  split
  · next device cache only =>
    refine .inl ⟨_, _, rfl, .single (Change.bound named ?_)⟩
    exact known (device, cache) (only ▸ List.mem_cons_self)
  · exact .inr ⟨_, rfl, fun silent h => by cases h⟩
  · exact .inr ⟨_, rfl, fun silent h => by cases h⟩

theorem aliasGet_atomic (name : String) : Atomic (Backend.aliasGet name) Answered backend := by
  unfold Atomic Backend.aliasGet
  rw [runOn_get_bind]
  cases backend.aliases.get? name with
  | none => exact .inr ⟨_, rfl, fun silent h => by cases h⟩
  | some device => exact .inl ⟨device, backend, rfl, .refl⟩

theorem aliasDelete_atomic (name : String) :
    Atomic (Backend.aliasDelete name) Answered backend := by
  unfold Atomic Backend.aliasDelete
  rw [runOn_get_bind]
  cases backend.aliases.get? name with
  | none => exact .inr ⟨_, rfl, fun silent h => by cases h⟩
  | some device => exact .inl ⟨_, _, rfl, .single (Change.unbound name)⟩

theorem groupAdd_changes {name : String} {devices : List Endpoint} (named : checkGroup name = .ok ())
    (some_device : devices ≠ []) (known : ∀ device ∈ devices, backend.known.contains device = true) :
    ∃ after, runOn (Backend.groupAdd name devices) backend = (.ok (), after) ∧ Changes backend after :=
  ⟨_, rfl, .single (Change.grouped named some_device known)⟩

theorem groupRemove_atomic (name : String) (devices : List Endpoint) :
    Atomic (Backend.groupRemove name devices) Answered backend := by
  unfold Atomic Backend.groupRemove
  rw [runOn_get_bind]
  cases members : backend.groups.get? name with
  | none => exact .inr ⟨_, rfl, fun silent h => by cases h⟩
  | some own =>
    rw [runOn_require_some]
    refine .inl ⟨(), _, rfl, .single ?_⟩
    by_cases nobody : (own.filter fun member => member ∉ devices).isEmpty = true
    · rw [if_pos nobody]
      exact Change.ungrouped name
    · rw [if_neg nobody]
      exact Change.shrunk members List.filter_sublist fun none => nobody (List.isEmpty_iff.mpr none)

theorem groupDelete_atomic (name : String) :
    Atomic (Backend.groupDelete name) Answered backend := by
  unfold Atomic Backend.groupDelete
  rw [runOn_get_bind]
  cases backend.groups.get? name with
  | none => exact .inr ⟨_, rfl, fun silent h => by cases h⟩
  | some members => exact .inl ⟨_, _, rfl, .single (Change.ungrouped name)⟩

theorem groupList_atomic (name : Option String) : Atomic (Backend.groupList name) Answered backend := by
  unfold Atomic Backend.groupList
  rw [runOn_get_bind]
  cases name with
  | none => exact .inl ⟨_, backend, rfl, .refl⟩
  | some name =>
    show (∃ value after, runOn (Backend.require _ (backend.groups.get? name) >>= fun own => pure [(name, own)])
        backend = (.ok value, after) ∧ _)
      ∨ ∃ error, runOn (Backend.require _ (backend.groups.get? name) >>= fun own => pure [(name, own)])
        backend = (.error error, backend) ∧ _
    cases backend.groups.get? name with
    | none => exact .inr ⟨_, rfl, fun silent h => by cases h⟩
    | some own => exact .inl ⟨_, backend, rfl, .refl⟩

theorem setDebug_changes (enabled : Bool) :
    ∃ after, runOn (Backend.setDebug enabled) backend = (.ok (), after) ∧ Changes backend after :=
  ⟨_, rfl, .single (Change.debugged enabled)⟩

end Operations

end DeviceConsole
