import DeviceConsole.Proofs.Failures

/-!
# `Proofs.Members` — one operation on the members of a group

A reading, writing or refresh of a group is the same operation on one member after the other, until one fails. What
an operation does to its device adds up over the members: they are distinct, and an operation on one of them does
not reach the others, so each is found as it was at the beginning.

* `Holding`, `EachOf` — what a site holds of a device, and the same effect on each of some devices and nowhere else;
* `setProperties_written`, `getProperties_read`, `updateProperties_refreshed` — one operation on one device;
* `Runs`, `mapM_cases`, `Runs.eachOf` — operations one after the other;
* `Readings`, `readings_succeed` — what readings one after the other tell, and when they succeed;
* `runs_of_ok` — what a reading or writing that succeeds has done;
* `fanOut_members` — a command that carries out an operation on the members of a group;
* `writing_of_group` — a writing to a group is not all or nothing: it reaches the members in front of the first one
  that refuses.
-/

namespace DeviceConsole

open Device (Criteria Endpoint Epc Property Specifier assignAll findEpc? findEpc?_answer findEpc?_assignAll
  findEpc?_replaceValues replaceValues)
open Router (addRow deviceRow groupKey present shownEpcs)

/-! ## What a site holds of a device -/

/-- Of one device: its properties on the network, and what is known of it. -/
structure Holding where
  onNetwork : Option (List Property)
  known : Option KnownDevice
  deriving DecidableEq

/-- What the site holds of a device. -/
def Backend.holding (backend : Backend) (device : Endpoint) : Holding :=
  ⟨backend.network.get? device, backend.known.get? device⟩

namespace Holding

/-- The value of a code on the network. -/
def value? (holding : Holding) (epc : Epc) : Option Property := holding.onNetwork.bind (findEpc? epc)

/-- The value of a code in the cache. -/
def cached? (holding : Holding) (epc : Epc) : Option Property :=
  holding.known.bind fun known => findEpc? epc known.properties

/-- The device has every code of the properties. -/
def Supports (properties : List Property) (holding : Holding) : Prop :=
  ∀ wanted ∈ properties, (holding.value? wanted.epc).isSome = true

/-- **A writing reached the device**: it has all the codes, holds the new values on the network and in the cache, of
a repeated code the last one, and every other value as before. -/
structure Written (properties : List Property) (old new : Holding) : Prop where
  supported : old.Supports properties
  given : ∀ epc wanted, findEpc? epc properties.reverse = some wanted →
    new.value? epc = some wanted ∧ new.cached? epc = some wanted
  kept : ∀ epc, findEpc? epc properties.reverse = none →
    new.value? epc = old.value? epc ∧ new.cached? epc = old.cached? epc

/-- **A reading reached the device**: the values of the codes on the network are in the cache now, every other cached
value is as before, and the network too. -/
structure Read (now : Time) (epcs : List Epc) (old new : Holding) : Prop where
  onNetwork : new.onNetwork = old.onNetwork
  known : new.known.map KnownDevice.updated = some now
  answered : ∀ epc ∈ epcs, ∃ property, old.value? epc = some property ∧ new.cached? epc = some property
  kept : ∀ epc, epc ∉ epcs → new.cached? epc = old.cached? epc

/-- **A refresh reached the device**: with force, or if it is old, its cache is all that the network has. -/
def Refreshed (now : Time) (force : Bool) (old new : Holding) : Prop :=
  ∃ properties known, old = ⟨some properties, some known⟩
    ∧ new = ⟨some properties, some (if force || Backend.isStale now known then ⟨properties, now⟩ else known)⟩

end Holding

/-- The alias that is told of a device depends on the aliases alone. -/
theorem aliasOf?_congr {before after : Backend} (same : after.aliases = before.aliases) (device : Endpoint) :
    after.aliasOf? device = before.aliasOf? device := by
  unfold Backend.aliasOf?
  rw [same]

/-! ## Changes that stay with some devices -/

/-- The site changed in nothing but what it holds of the devices. -/
structure ConfinedTo (devices : List Endpoint) (before after : Backend) : Prop where
  others : ∀ device, device ∉ devices → after.holding device = before.holding device
  aliases : after.aliases = before.aliases
  groups : after.groups = before.groups
  debug : after.debug = before.debug

/-- The same effect on each of the devices, and no other change. -/
structure EachOf (effect : Holding → Holding → Prop) (devices : List Endpoint) (before after : Backend) : Prop where
  reached : ∀ device ∈ devices, effect (before.holding device) (after.holding device)
  confined : ConfinedTo devices before after

variable {effect : Holding → Holding → Prop} {backend before between after : Backend}

theorem EachOf.nil (backend : Backend) : EachOf effect [] backend backend :=
  ⟨fun _ mem => absurd mem List.not_mem_nil, fun _ _ => rfl, rfl, rfl, rfl⟩

/-- **Effects on distinct devices add up**, since neither change reaches the devices of the other. -/
theorem EachOf.cons {device : Endpoint} {rest : List Endpoint} (new : device ∉ rest)
    (first : EachOf effect [device] before between) (others : EachOf effect rest between after) :
    EachOf effect (device :: rest) before after := by
  refine ⟨?_, ?_, others.confined.aliases.trans first.confined.aliases,
    others.confined.groups.trans first.confined.groups, others.confined.debug.trans first.confined.debug⟩
  · intro other mem
    rcases List.mem_cons.mp mem with rfl | later
    · rw [others.confined.others other new]
      exact first.reached other (List.mem_singleton_self other)
    -- the first operation stayed with its own device, so the others find what was there before
    · have untouched : between.holding other = before.holding other := by
        refine first.confined.others other fun same => new ?_
        rwa [List.mem_singleton.mp same] at later
      rw [← untouched]
      exact others.reached other later
  · intro other outside
    have notFirst : other ∉ [device] := fun mem => outside (List.mem_singleton.mp mem ▸ List.mem_cons_self)
    have notLater : other ∉ rest := fun mem => outside (List.mem_cons_of_mem _ mem)
    exact (others.confined.others other notLater).trans (first.confined.others other notFirst)

/-- A change of what the site holds of one device. -/
theorem EachOf.one {device : Endpoint} {network : OrderedMap Endpoint (List Property)}
    {known : OrderedMap Endpoint KnownDevice}
    (reached : effect (backend.holding device) ⟨network.get? device, known.get? device⟩)
    (sameNetwork : ∀ other, other ≠ device → network.get? other = backend.network.get? other)
    (sameKnown : ∀ other, other ≠ device → known.get? other = backend.known.get? other) :
    EachOf effect [device] backend { backend with network, known } := by
  refine ⟨?_, ?_, rfl, rfl, rfl⟩
  · intro other mem
    cases List.mem_singleton.mp mem
    exact reached
  · intro other outside
    have ne : other ≠ device := fun same => outside (List.mem_singleton.mpr same)
    show Holding.mk (network.get? other) (known.get? other) = ⟨backend.network.get? other, backend.known.get? other⟩
    rw [sameNetwork other ne, sameKnown other ne]

/-! ## One operation on one device -/

/-- A writing that succeeds reaches its device, and answers for it. -/
theorem setProperties_written {now : Time} {device : Endpoint} {properties : List Property} {snapshot : Snapshot}
    (ran : runOn (Backend.setProperties now device properties) backend = (.ok snapshot, after)) :
    EachOf (Holding.Written properties) [device] backend after ∧ snapshot.device = device := by
  obtain ⟨result, last, same, outcome⟩ := setProperties_outcome backend now device properties
  rw [ran] at same
  cases same
  cases outcome with
  | @written cache old known onNetwork supported =>
    refine ⟨EachOf.one ?_ (fun other => OrderedMap.get?_insert_ne) fun other => OrderedMap.get?_insert_ne, rfl⟩
    rw [OrderedMap.get?_insert_self, OrderedMap.get?_insert_self, Backend.holding, known, onNetwork]
    refine ⟨supported, fun epc wanted last => ?_, fun epc unnamed => ?_⟩
    -- the cache takes every new value, but the network only those of codes that it has
    · obtain ⟨mem, code⟩ := Device.mem_of_findEpc? last
      obtain ⟨first, found⟩ := Option.isSome_iff_exists.mp (supported wanted (List.mem_reverse.mp mem))
      rw [code] at found
      constructor
      · show findEpc? epc (replaceValues properties old) = some wanted
        rw [findEpc?_replaceValues, found, last]
        rfl
      · show findEpc? epc (assignAll properties cache.properties) = some wanted
        rw [findEpc?_assignAll, last]
        rfl
    · constructor
      · show findEpc? epc (replaceValues properties old) = findEpc? epc old
        rw [findEpc?_replaceValues, unnamed]
        cases findEpc? epc old <;> rfl
      · show findEpc? epc (assignAll properties cache.properties) = findEpc? epc cache.properties
        rw [findEpc?_assignAll, unnamed]
        rfl

/-- A writing to a known device of the network fails only at a code that the device lacks. -/
theorem setProperties_refused {now : Time} {device : Endpoint} {properties : List Property} {error : ConsoleError}
    (known : backend.known.contains device = true) (answers : backend.network.get? device ≠ none)
    (failed : (runOn (Backend.setProperties now device properties) backend).1 = .error error) :
    ∃ wanted ∈ properties, error = .execution (.failed (.cannotSet device wanted.epc))
      ∧ (backend.holding device).value? wanted.epc = none := by
  obtain ⟨result, after, ran, outcome⟩ := setProperties_outcome backend now device properties
  rw [ran] at failed
  cases outcome with
  | unknown unknown =>
    obtain ⟨cache, isKnown⟩ := OrderedMap.contains_iff.mp known
    rw [isKnown] at unknown
    cases unknown
  | silent _ gone => exact absurd gone answers
  | @lacking onNetwork wanted _ same mem lacks =>
    cases failed
    refine ⟨wanted, mem, rfl, ?_⟩
    rw [Holding.value?, Backend.holding, same]
    exact lacks
  | written => cases failed

/-- A reading that succeeds reaches its device, and answers for it. -/
theorem getProperties_read {now : Time} {device : Endpoint} {epcs : List Epc} {skipValidation : Bool}
    {snapshot : Snapshot}
    (ran : runOn (Backend.getProperties now device epcs skipValidation) backend = (.ok snapshot, after)) :
    EachOf (Holding.Read now epcs) [device] backend after ∧ snapshot.device = device := by
  obtain ⟨result, last, same, outcome⟩ := getProperties_outcome backend now device epcs skipValidation
  rw [ran] at same
  cases same
  cases outcome with
  | @answered properties _ onNetwork supported =>
    refine ⟨EachOf.one ?_ (fun _ _ => rfl) fun other => OrderedMap.get?_insert_ne, rfl⟩
    rw [OrderedMap.get?_insert_self]
    have cached : ∀ epc, findEpc? epc (backend.cacheOf device) = (backend.holding device).cached? epc := by
      intro epc
      unfold Backend.cacheOf Holding.cached? Backend.holding
      cases backend.known.get? device <;> rfl
    refine ⟨rfl, rfl, fun epc mem => ?_, fun epc unasked => ?_⟩
    · obtain ⟨property, found⟩ := Option.isSome_iff_exists.mp (supported epc mem)
      refine ⟨property, ?_, ?_⟩
      · rw [Holding.value?, Backend.holding, onNetwork]
        exact found
      · show findEpc? epc (assignAll _ _) = some property
        rw [findEpc?_assignAll, findEpc?_answer, if_pos mem, found]
        rfl
    · show findEpc? epc (assignAll _ (backend.cacheOf device)) = _
      rw [findEpc?_assignAll, findEpc?_answer, if_neg unasked, ← cached]
      rfl

/-- A reading that may reach its device fails only at codes that the device lacks. -/
theorem getProperties_refused {now : Time} {device : Endpoint} {epcs : List Epc} {skipValidation : Bool}
    {error : ConsoleError} (known : backend.known.contains device = true)
    (answers : backend.network.get? device ≠ none)
    (failed : (runOn (Backend.getProperties now device epcs skipValidation) backend).1 = .error error) :
    ∃ missing, missing ≠ [] ∧ error = .execution (.failed (.cannotGet device missing))
      ∧ ∀ epc, epc ∈ missing ↔ epc ∈ epcs ∧ (backend.holding device).value? epc = none := by
  obtain ⟨result, after, ran, outcome⟩ := getProperties_outcome backend now device epcs skipValidation
  rw [ran] at failed
  cases outcome with
  | unknown unknown => exact absurd (by rw [known, Bool.or_true]) unknown
  | silent _ gone => exact absurd gone answers
  | @lacking onNetwork missing _ same some_missing lacks =>
    cases failed
    refine ⟨missing, some_missing, rfl, fun epc => ?_⟩
    rw [Holding.value?, Backend.holding, same]
    exact lacks epc
  | answered => cases failed

/-- The specifier of a known device selects this device with its cache. -/
theorem selected_exact {device : Endpoint} {cache : KnownDevice} (known : backend.known.get? device = some cache) :
    backend.selected ⟨.exact device, []⟩ = [(device, cache)] := by
  have devices : (backend.selected ⟨.exact device, []⟩).map Prod.fst = [device] := by
    rw [← findDevices_exact (OrderedMap.contains_iff.mpr ⟨cache, known⟩)]
    unfold Backend.selected Backend.findDevices OrderedMap.keys
    rw [List.filter_map]
    refine congrArg _ (List.filter_congr fun entry _ => ?_)
    simp [Criteria.selects]
  obtain ⟨⟨own, other⟩, only, rfl⟩ := List.map_eq_singleton_iff.mp devices
  have mem : (own, other) ∈ backend.selected ⟨.exact own, []⟩ := by
    rw [only]
    exact List.mem_singleton_self _
  have found := OrderedMap.get?_eq_some_iff.mpr (List.mem_filter.mp mem).1
  rw [known] at found
  cases found
  exact only

/-- A refresh of one known device of the network reaches it. -/
theorem updateProperties_refreshed {now : Time} {force : Bool} {device : Endpoint} {count : Nat}
    (known : backend.known.contains device = true) (answers : backend.network.get? device ≠ none)
    (ran : runOn (Backend.updateProperties now ⟨.exact device, []⟩ force) backend = (.ok count, after)) :
    EachOf (Holding.Refreshed now force) [device] backend after := by
  obtain ⟨cache, isKnown⟩ := OrderedMap.contains_iff.mp known
  obtain ⟨properties, onNetwork⟩ := Option.ne_none_iff_exists'.mp answers
  have held : backend.holding device = ⟨some properties, some cache⟩ := by
    rw [Backend.holding, onNetwork, isKnown]
  unfold Backend.updateProperties at ran
  rw [runOn_get_bind, selected_exact isKnown] at ran
  by_cases due : (force || Backend.isStale now cache) = true
  · have fresh : backend.refreshed? now force (device, cache) = some (device, ⟨properties, now⟩) := by
      rw [Backend.refreshed?, if_pos due, onNetwork]
      rfl
    rw [List.filterMap_cons, fresh] at ran
    cases ran
    refine EachOf.one ⟨properties, cache, held, ?_⟩ (fun _ _ => rfl) fun other => OrderedMap.get?_insert_ne
    rw [if_pos due, onNetwork]
    exact congrArg _ (OrderedMap.get?_insert_self ..)
  · have fresh : backend.refreshed? now force (device, cache) = none := by rw [Backend.refreshed?, if_neg due]
    rw [List.filterMap_cons, fresh] at ran
    cases ran
    refine EachOf.one ⟨properties, cache, held, ?_⟩ (fun _ _ => rfl) fun _ _ => rfl
    rw [if_neg due, ← held]
    rfl

/-! ## One after the other -/

section Runs

variable {α β : Type} {f : α → Action β}

/-- The action succeeded on each of the items, one after the other. -/
inductive Runs (f : α → Action β) : List α → Backend → List β → Backend → Prop
  | nil (backend : Backend) : Runs f [] backend [] backend
  | cons {item : α} {rest : List α} {before between after : Backend} {value : β} {values : List β} :
      runOn (f item) before = (.ok value, between) → Runs f rest between values after →
      Runs f (item :: rest) before (value :: values) after

/-- **The action succeeds on each of the items, or it succeeds on the first ones and fails on the next one**, and
then nothing more is done. -/
theorem mapM_cases (f : α → Action β) (items : List α) (backend : Backend) :
    (∃ values after, runOn (items.mapM f) backend = (.ok values, after) ∧ Runs f items backend values after)
    ∨ ∃ done failing rest values between error after, items = done ++ failing :: rest
      ∧ Runs f done backend values between ∧ runOn (f failing) between = (.error error, after)
      ∧ runOn (items.mapM f) backend = (.error error, after) := by
  induction items generalizing backend with
  | nil => exact .inl ⟨[], backend, rfl, .nil backend⟩
  | cons item rest ih =>
    rw [List.mapM_cons, runOn_bind]
    cases ran : runOn (f item) backend with
    | mk result between =>
      cases result with
      | error error => exact .inr ⟨[], item, rest, [], backend, error, between, rfl, .nil backend, ran, rfl⟩
      | ok value =>
        rcases ih between with ⟨values, after, all, runs⟩ |
          ⟨done, failing, others, values, last, error, after, rfl, runs, failed, stopped⟩
        · refine .inl ⟨value :: values, after, ?_, .cons ran runs⟩
          show runOn (rest.mapM f >>= fun values => pure (value :: values)) between = _
          rw [runOn_bind, all]
          rfl
        · refine .inr ⟨item :: done, failing, others, value :: values, last, error, after, rfl, .cons ran runs,
            failed, ?_⟩
          show runOn ((done ++ failing :: others).mapM f >>= fun values => pure (value :: values)) between = _
          rw [runOn_bind, stopped]

/-- If each result tells its item, the results tell the items in order. -/
theorem Runs.map_eq {told : β → α} {items : List α} {before after : Backend} {values : List β}
    (h : Runs f items before values after)
    (each : ∀ item ∈ items, ∀ before value after, runOn (f item) before = (.ok value, after) → told value = item) :
    values.map told = items := by
  induction h with
  | nil backend => rfl
  | cons ran _ ih =>
    rw [List.map_cons, each _ List.mem_cons_self _ _ _ ran, ih fun item mem => each item (List.mem_cons_of_mem _ mem)]

end Runs

/-- **The effects of operations on distinct devices add up.** -/
theorem Runs.eachOf {β : Type} {f : Endpoint → Action β} {devices : List Endpoint} {values : List β}
    (h : Runs f devices before values after) (distinct : devices.Nodup)
    (each : ∀ device ∈ devices, ∀ between value next, (between.holding device = before.holding device) →
      runOn (f device) between = (.ok value, next) → EachOf effect [device] between next) :
    EachOf effect devices before after := by
  induction h with
  | nil backend => exact .nil backend
  | @cons device rest before between after value values ran _ ih =>
    obtain ⟨new, distinctRest⟩ := List.nodup_cons.mp distinct
    have first : EachOf effect [device] before between :=
      each device List.mem_cons_self before value between rfl ran
    refine .cons new first (ih distinctRest fun other mem later value next same ranOther => ?_)
    refine each other (List.mem_cons_of_mem _ mem) later value next (same.trans ?_) ranOther
    -- the other device was not reached by the first operation
    exact first.confined.others other fun isFirst => new (List.mem_singleton.mp isFirst ▸ mem)

/-- An operation on distinct devices reaches all of them, or those in front of the one at which it fails, which is
then as it was at the beginning. -/
theorem fanOut_cases {f : Endpoint → Action Snapshot} {devices : List Endpoint} (distinct : devices.Nodup)
    (clean : ∀ device, Intact (f device))
    (each : ∀ device ∈ devices, ∀ between snapshot next, runOn (f device) between = (.ok snapshot, next) →
      EachOf effect [device] between next ∧ snapshot.device = device) :
    (∃ snapshots after, runOn (devices.mapM f) backend = (.ok snapshots, after)
      ∧ EachOf effect devices backend after ∧ snapshots.map Snapshot.device = devices)
    ∨ ∃ done failing rest error after, devices = done ++ failing :: rest
      ∧ runOn (devices.mapM f) backend = (.error error, after) ∧ EachOf effect done backend after
      ∧ after.holding failing = backend.holding failing ∧ (runOn (f failing) after).1 = .error error := by
  rcases mapM_cases f devices backend with
    ⟨snapshots, after, ran, runs⟩ | ⟨done, failing, rest, values, between, error, after, rfl, runs, failed, ran⟩
  · refine .inl ⟨snapshots, after, ran, ?_, ?_⟩
    · exact runs.eachOf distinct fun device mem between value next _ ran => (each device mem between value next ran).1
    · exact runs.map_eq fun device mem before value after ran => (each device mem before value after ran).2
  -- the operation that failed left nothing behind, so the site is the one at which it started
  · have same : after = between := by
      have clean := clean failing between error (by rw [failed])
      rwa [failed] at clean
    subst same
    obtain ⟨distinctDone, -, apart⟩ := List.nodup_append.mp distinct
    have reached : EachOf effect done backend after :=
      runs.eachOf distinctDone fun device mem between value next _ ran =>
        (each device (List.mem_append_left _ mem) between value next ran).1
    have untouched : failing ∉ done := fun mem => apart failing mem failing List.mem_cons_self rfl
    exact .inr ⟨done, failing, rest, error, after, rfl, ran, reached, reached.confined.others failing untouched,
      by rw [failed]⟩

/-! ## Readings one after the other -/

section Readings

variable {now : Time} {epcs : List Epc} {devices rest : List Endpoint} {device : Endpoint} {skipValidation : Bool}
  {snapshot : Snapshot} {snapshots : List Snapshot}

/-- The device is on the network and has all the codes. -/
structure Holding.Offers (epcs : List Epc) (holding : Holding) : Prop where
  answers : holding.onNetwork ≠ none
  codes : ∀ epc ∈ epcs, (holding.value? epc).isSome = true

/-- What a device answers to a reading: of each code that is found the first value on the network. -/
def Backend.answerOf (backend : Backend) (now : Time) (epcs : List Epc) (device : Endpoint) : Snapshot :=
  ⟨device, backend.aliasOf? device, epcs.filterMap (backend.holding device).value?, now⟩

theorem Backend.answerOf_eq {onNetwork : List Property} (reached : backend.network.get? device = some onNetwork) :
    backend.answerOf now epcs device
      = ⟨device, backend.aliasOf? device, epcs.filterMap fun epc => findEpc? epc onNetwork, now⟩ := by
  unfold Backend.answerOf Holding.value? Backend.holding
  rw [reached]
  rfl

/-- Readings answer for devices that have all the codes, as the network was at the beginning. They change what is
known, and make nothing unknown. -/
structure Readings (now : Time) (epcs : List Epc) (devices : List Endpoint) (before : Backend)
    (snapshots : List Snapshot) (after : Backend) : Prop where
  told : snapshots = devices.map (before.answerOf now epcs)
  offers : ∀ device ∈ devices, (before.holding device).Offers epcs
  network : after.network = before.network
  aliases : after.aliases = before.aliases
  grows : ∀ device, before.known.contains device = true → after.known.contains device = true

theorem Readings.nil (backend : Backend) : Readings now epcs [] backend [] backend :=
  ⟨rfl, fun _ mem => absurd mem List.not_mem_nil, rfl, rfl, fun _ => id⟩

/-- The network and the aliases stay, so the devices behind the first one answer what they would have answered. -/
theorem Readings.cons (first : Readings now epcs [device] before [snapshot] between)
    (others : Readings now epcs rest between snapshots after) :
    Readings now epcs (device :: rest) before (snapshot :: snapshots) after := by
  have sameNetwork : ∀ other, (between.holding other).onNetwork = (before.holding other).onNetwork := fun other =>
    congrArg (OrderedMap.get? · other) first.network
  have sameValue : ∀ other, (between.holding other).value? = (before.holding other).value? := fun other =>
    funext fun epc => by rw [Holding.value?, Holding.value?, sameNetwork]
  have sameAnswer : ∀ other, between.answerOf now epcs other = before.answerOf now epcs other := fun other => by
    rw [Backend.answerOf, Backend.answerOf, sameValue, aliasOf?_congr first.aliases]
  refine ⟨?_, fun other mem => ?_, others.network.trans first.network, others.aliases.trans first.aliases,
    fun other known => others.grows other (first.grows other known)⟩
  · rw [others.told, List.map_congr_left fun other _ => sameAnswer other, ← List.singleton_append, first.told]
    rfl
  · rcases List.mem_cons.mp mem with rfl | later
    · exact first.offers other (List.mem_singleton_self other)
    · obtain ⟨answers, codes⟩ := others.offers other later
      rw [sameNetwork] at answers
      rw [sameValue] at codes
      exact ⟨answers, codes⟩

theorem getProperties_reads
    (ran : runOn (Backend.getProperties now device epcs skipValidation) backend = (.ok snapshot, after)) :
    Readings now epcs [device] backend [snapshot] after := by
  obtain ⟨result, last, same, outcome⟩ := getProperties_outcome backend now device epcs skipValidation
  rw [ran] at same
  cases same
  cases outcome with
  | @answered onNetwork _ reached supported =>
    refine ⟨by rw [← Backend.answerOf_eq reached]; rfl, fun other mem => ?_, rfl, rfl, fun other known => ?_⟩
    · cases List.mem_singleton.mp mem
      unfold Backend.holding
      rw [reached]
      exact ⟨nofun, supported⟩
    · exact (OrderedMap.contains_insert ..).mpr (.inr known)

theorem Runs.readings
    (h : Runs (fun device => Backend.getProperties now device epcs skipValidation) devices backend snapshots after) :
    Readings now epcs devices backend snapshots after := by
  induction h with
  | nil backend => exact .nil backend
  | cons ran _ ih => exact (getProperties_reads ran).cons ih

/-- **Readings of devices that have all the codes succeed.** -/
theorem readings_succeed (now : Time)
    (allowed : ∀ device ∈ devices, (skipValidation || backend.known.contains device) = true)
    (offers : ∀ device ∈ devices, (backend.holding device).Offers epcs) :
    ∃ snapshots after, runOn (devices.mapM fun device => Backend.getProperties now device epcs skipValidation) backend
        = (.ok snapshots, after)
      ∧ Runs (fun device => Backend.getProperties now device epcs skipValidation) devices backend snapshots after := by
  rcases mapM_cases (fun device => Backend.getProperties now device epcs skipValidation) devices backend with
    all | ⟨done, failing, rest, snapshots, between, error, after, rfl, runs, failed, -⟩
  · exact all
  -- the devices in front of the failing one have left it on the network, and known if it was
  · have isDevice : failing ∈ done ++ failing :: rest := List.mem_append_right _ List.mem_cons_self
    obtain ⟨answers, codes⟩ := offers failing isDevice
    obtain ⟨onNetwork, reached⟩ := Option.ne_none_iff_exists'.mp answers
    have stillAllowed : (skipValidation || between.known.contains failing) = true := by
      rw [Bool.or_eq_true]
      exact (Bool.or_eq_true _ _ ▸ allowed failing isDevice).imp_right (runs.readings.grows failing)
    have stillReached : between.network.get? failing = some onNetwork := runs.readings.network ▸ reached
    have supported : ∀ epc ∈ epcs, (findEpc? epc onNetwork).isSome = true := by
      intro epc asked
      have found := codes epc asked
      rwa [Holding.value?, reached] at found
    have succeeds := getProperties_ok now stillAllowed stillReached supported
    rw [failed] at succeeds
    cases succeeds

end Readings

/-! ## Commands that are aimed at devices -/

/-- **A reading or writing that succeeds** found the devices of its target and succeeded on each of them. -/
theorem runs_of_ok {target : Target} {allowUnknown : Bool} {f : Endpoint → Action Snapshot}
    {answer : List Endpoint → List Snapshot → Outcome} {outcome : Outcome}
    (ran : runOn (do
      let devices ← Router.resolve target allowUnknown
      let snapshots ← devices.mapM f
      return answer devices snapshots) backend = (.ok outcome, after)) :
    ∃ devices snapshots, runOn (Router.resolve target allowUnknown) backend = (.ok devices, backend)
      ∧ Resolved backend allowUnknown target devices ∧ Runs f devices backend snapshots after
      ∧ outcome = answer devices snapshots := by
  rw [runOn_bind] at ran
  rcases resolve_cases target allowUnknown backend with ⟨devices, found, resolved⟩ | ⟨error, failed, -⟩
  · rw [found] at ran
    rcases mapM_cases f devices backend with
      ⟨snapshots, last, all, runs⟩ | ⟨_, _, _, _, _, error, last, -, -, -, stopped⟩
    · simp only [runOn_bind, all] at ran
      cases ran
      exact ⟨devices, snapshots, found, resolved, runs, rfl⟩
    · simp only [runOn_bind, stopped] at ran
      cases ran
  · rw [failed] at ran
    cases ran

/-! ## Commands that are aimed at a group -/

section Group

variable {devices members : List Endpoint} {name : String}

/-- A group that exists stands for its members. -/
theorem runOn_resolve_group {α : Type} (bound : backend.groups.get? name = some members) (allowUnknown : Bool)
    (next : List Endpoint → Action α) :
    runOn (Router.resolve (.group name) allowUnknown >>= next) backend = runOn (next members) backend := by
  have resolved : runOn (Router.resolve (.group name) allowUnknown) backend = (.ok members, backend) := by
    show runOn (Router.members name) backend = _
    rw [runOn_members, bound]
  rw [runOn_bind, resolved]

/-- What is held of a member at the moment at which an operation on it fails. -/
theorem Backend.Sound.member_answers (sound : backend.Sound devices)
    (bound : backend.groups.get? name = some members) {member : Endpoint} (mem : member ∈ members)
    (same : after.holding member = backend.holding member) :
    after.known.contains member = true ∧ after.network.get? member ≠ none := by
  have known := (sound.groups name members bound).2.2.1 member mem
  have sameKnown : after.known.get? member = backend.known.get? member := congrArg Holding.known same
  have sameNetwork : after.network.get? member = backend.network.get? member := congrArg Holding.onNetwork same
  refine ⟨?_, ?_⟩
  · rwa [OrderedMap.contains, sameKnown]
  · rw [sameNetwork]
    exact sound.answers known

/-- **An operation on the members of a group reaches all of them, and is answered with a row for each in order**, or
it reaches those in front of the one at which it fails, which is then as it was at the beginning. -/
theorem fanOut_members (sound : backend.Sound devices) (bound : backend.groups.get? name = some members)
    {f : Endpoint → Action Snapshot} (clean : ∀ device, Intact (f device))
    (each : ∀ device between snapshot next, runOn (f device) between = (.ok snapshot, next) →
      EachOf effect [device] between next ∧ snapshot.device = device)
    (allowUnknown : Bool) (epcs : List Epc) {action : Action Outcome}
    (fanOut : action = Router.resolve (.group name) allowUnknown >>= fun devices => devices.mapM f >>= fun snapshots =>
      pure { answer := .devices (snapshots.map (deviceRow · epcs)), devices := devices.length }) :
    (∃ rows after, runOn action backend = (.ok { answer := .devices rows, devices := members.length }, after)
      ∧ rows.map DeviceRow.device = members ∧ EachOf effect members backend after)
    ∨ ∃ done failing rest error after, members = done ++ failing :: rest
      ∧ runOn action backend = (.error error, after) ∧ EachOf effect done backend after
      ∧ after.holding failing = backend.holding failing ∧ after.known.contains failing = true
      ∧ after.network.get? failing ≠ none ∧ (runOn (f failing) after).1 = .error error := by
  obtain ⟨-, distinct, -, -⟩ := sound.groups name members bound
  rw [fanOut, runOn_resolve_group bound]
  rcases fanOut_cases distinct clean (fun device _ => each device) with
    ⟨snapshots, after, ran, reached, named⟩ | ⟨done, failing, rest, error, after, parts, ran, reached, same, failed⟩
  · refine .inl ⟨snapshots.map (deviceRow · epcs), after, ?_, ?_, reached⟩
    · rw [runOn_bind, ran]
      rfl
    · rw [List.map_map]
      exact named
  · have isMember : failing ∈ members := parts ▸ List.mem_append_right _ List.mem_cons_self
    obtain ⟨known, answers⟩ := sound.member_answers bound isMember same
    refine .inr ⟨done, failing, rest, error, after, parts, ?_, reached, same, known, answers, failed⟩
    rw [runOn_bind, ran]

/-- A writing to a group reaches all members, or those in front of one that lacks a code. -/
theorem writing_members (sound : backend.Sound devices) (bound : backend.groups.get? name = some members)
    (now : Time) (properties : List Property) :
    (∃ rows after, runOn (Router.writing now ⟨.group name, properties⟩) backend
        = (.ok { answer := .devices rows, devices := members.length }, after)
      ∧ rows.map DeviceRow.device = members ∧ EachOf (Holding.Written properties) members backend after)
    ∨ ∃ done refusing rest wanted after, members = done ++ refusing :: rest
      ∧ runOn (Router.writing now ⟨.group name, properties⟩) backend
        = (.error (.execution (.failed (.cannotSet refusing wanted.epc))), after)
      ∧ wanted ∈ properties ∧ (backend.holding refusing).value? wanted.epc = none
      ∧ EachOf (Holding.Written properties) done backend after := by
  rcases fanOut_members sound bound (f := fun device => Backend.setProperties now device properties)
      (fun device => Backend.Operation.intact (.setProperties now device properties))
      (fun device between snapshot next ran => setProperties_written ran) false (properties.map Property.epc) rfl with
    all | ⟨done, refusing, rest, error, after, parts, ran, reached, same, known, answers, failed⟩
  · exact .inl all
  · obtain ⟨wanted, mem, rfl, lacks⟩ := setProperties_refused known answers failed
    rw [same] at lacks
    exact .inr ⟨done, refusing, rest, wanted, after, parts, ran, mem, lacks, reached⟩

/-- A reading of a group answers for all members in order, or stops at one that lacks a code. -/
theorem reading_members (sound : backend.Sound devices) (bound : backend.groups.get? name = some members)
    (now : Time) (epcs : List Epc) (skipValidation : Bool) :
    (∃ rows after, runOn (Router.reading now ⟨.group name, epcs, skipValidation⟩) backend
        = (.ok { answer := .devices rows, devices := members.length }, after)
      ∧ rows.map DeviceRow.device = members ∧ EachOf (Holding.Read now epcs) members backend after)
    ∨ ∃ done refusing rest missing after, members = done ++ refusing :: rest
      ∧ runOn (Router.reading now ⟨.group name, epcs, skipValidation⟩) backend
        = (.error (.execution (.failed (.cannotGet refusing missing))), after)
      ∧ missing ≠ [] ∧ (∀ epc, epc ∈ missing ↔ epc ∈ epcs ∧ (backend.holding refusing).value? epc = none)
      ∧ EachOf (Holding.Read now epcs) done backend after := by
  rcases fanOut_members sound bound (f := fun device => Backend.getProperties now device epcs skipValidation)
      (fun device => Backend.Operation.intact (.getProperties now device epcs skipValidation))
      (fun device between snapshot next ran => getProperties_read ran) skipValidation epcs rfl with
    all | ⟨done, refusing, rest, error, after, parts, ran, reached, same, known, answers, failed⟩
  · exact .inl all
  · obtain ⟨missing, some_missing, rfl, lacks⟩ := getProperties_refused known answers failed
    rw [same] at lacks
    exact .inr ⟨done, refusing, rest, missing, after, parts, ran, some_missing, lacks, reached⟩

/-- **A refresh of a group never fails** and reaches all members. -/
theorem refreshing_members (sound : backend.Sound devices) (bound : backend.groups.get? name = some members)
    (now : Time) (force : Bool) :
    ∃ outcome after, runOn (Router.refreshing now ⟨some (.group name), force⟩) backend = (.ok outcome, after)
      ∧ EachOf (Holding.Refreshed now force) members backend after := by
  obtain ⟨-, distinct, -, -⟩ := sound.groups name members bound
  have targets : runOn (Router.refreshTargets (some (.group name))) backend
      = (.ok (members.map Specifier.exact), backend) := by
    rw [Router.refreshTargets, runOn_bind, runOn_members, bound]
    rfl
  rcases mapM_cases (fun device => Backend.updateProperties now ⟨.exact device, []⟩ force) members backend with
    ⟨counts, after, ran, runs⟩ | ⟨done, failing, rest, counts, between, error, after, -, -, failed, -⟩
  · have all : runOn ((members.map Specifier.exact).mapM fun specifier =>
        Backend.updateProperties now ⟨specifier, []⟩ force) backend = (.ok counts, after) := by
      rw [List.mapM_map]
      exact ran
    refine ⟨{ answer := .message (Router.counted (counts.foldl (· + ·) 0) "updated")
              devices := counts.foldl (· + ·) 0 }, after, ?_, ?_⟩
    · unfold Router.refreshing
      simp only [runOn_bind, targets, all]
      rfl
    · refine runs.eachOf distinct fun device mem between count next same refreshed => ?_
      obtain ⟨known, answers⟩ := sound.member_answers bound mem same
      exact updateProperties_refreshed known answers refreshed
  · cases failed

/-- The rows under all keys are those before and the new one. -/
theorem flatMap_addRow_perm (key : String) (row : DeviceRow) (groups : List (String × List DeviceRow)) :
    ((addRow key row groups).flatMap Prod.snd).Perm (groups.flatMap Prod.snd ++ [row]) := by
  induction groups with
  | nil => exact .refl _
  | cons first rest ih =>
    rw [addRow]
    by_cases same : first.1 = key
    · rw [if_pos same, List.flatMap_cons, List.flatMap_cons, List.append_assoc, List.append_assoc]
      exact List.perm_append_comm.append_left first.2
    · rw [if_neg same, List.flatMap_cons, List.flatMap_cons, List.append_assoc]
      exact ih.append_left first.2

/-- A listing has one row for each of its devices, under keys or not. -/
theorem rows_present_perm (command : DevicesCommand) (snapshots : List Snapshot) :
    (present command snapshots).rows.Perm
      (snapshots.map fun snapshot => deviceRow snapshot (shownEpcs command snapshot)) := by
  unfold present
  cases command.groupBy with
  | none => exact .refl _
  | some epc =>
    have added : ∀ groups : List (String × List DeviceRow),
        ((snapshots.foldl (fun groups snapshot =>
            addRow (groupKey epc snapshot) (deviceRow snapshot (shownEpcs command snapshot)) groups)
          groups).flatMap Prod.snd).Perm
        (groups.flatMap Prod.snd
          ++ snapshots.map fun snapshot => deviceRow snapshot (shownEpcs command snapshot)) := by
      induction snapshots with
      | nil => exact fun groups => by rw [List.map_nil, List.append_nil]; exact .refl _
      | cons snapshot rest ih =>
        intro groups
        refine (ih _).trans ?_
        rw [List.map_cons, List.append_cons]
        exact (flatMap_addRow_perm _ _ groups).append_right _
    exact added []

theorem map_device_listDevices (criteria : Criteria) (backend : Backend) :
    (backend.listDevices criteria).map Snapshot.device = (backend.selected criteria).map Prod.fst := by
  rw [Backend.listDevices, List.map_map]
  rfl

/-- A listing has no device twice. -/
theorem nodup_listDevices (criteria : Criteria) (backend : Backend) :
    ((backend.listDevices criteria).map Snapshot.device).Nodup := by
  rw [map_device_listDevices]
  exact backend.known.nodup_keys.sublist (List.filter_sublist.map Prod.fst)

/-- A listing has the known devices that the criteria select by their caches. -/
theorem mem_map_listDevices {criteria : Criteria} {device : Endpoint} :
    device ∈ (backend.listDevices criteria).map Snapshot.device
      ↔ ∃ known, backend.known.get? device = some known ∧ criteria.selects device known.properties = true := by
  rw [map_device_listDevices, List.mem_map]
  constructor
  · rintro ⟨⟨own, known⟩, mem, rfl⟩
    obtain ⟨entry, selected⟩ := List.mem_filter.mp mem
    exact ⟨known, OrderedMap.get?_eq_some_iff.mpr entry, selected⟩
  · rintro ⟨known, found, selected⟩
    exact ⟨(device, known), List.mem_filter.mpr ⟨OrderedMap.get?_eq_some_iff.mp found, selected⟩, rfl⟩

/-- **A listing of a group** has one row for each member whose cache holds all the given properties. -/
theorem listing_members (sound : backend.Sound devices) (bound : backend.groups.get? name = some members)
    {command : DevicesCommand} (target : command.target = some (.group name)) :
    ∃ outcome, runOn (Router.listing command) backend = (.ok outcome, backend)
      ∧ (outcome.answer.rows.map DeviceRow.device).Perm
          (members.filter fun member => command.properties.all ((backend.cacheOf member).contains ·)) := by
  obtain ⟨-, distinct, known, -⟩ := sound.groups name members bound
  have listed : runOn (Router.listed command) backend
      = (.ok ((backend.listDevices ⟨.any, command.properties⟩).filter fun snapshot => snapshot.device ∈ members),
        backend) := by
    unfold Router.listed
    rw [target]
    simp only [runOn_bind, runOn_members, bound]
    rfl
  refine ⟨_, by unfold Router.listing; rw [runOn_bind, listed]; rfl, ?_⟩
  refine ((rows_present_perm command _).map DeviceRow.device).trans ?_
  rw [List.map_map]
  show (((backend.listDevices ⟨.any, command.properties⟩).filter fun snapshot => snapshot.device ∈ members).map
    Snapshot.device).Perm _
  rw [show (fun snapshot : Snapshot => decide (snapshot.device ∈ members))
      = (fun device => decide (device ∈ members)) ∘ Snapshot.device from rfl, ← List.filter_map]
  -- both sides hold no device twice, so it is enough that they hold the same devices
  refine (List.perm_ext_iff_of_nodup ?_ (distinct.filter _)).mpr fun device => ?_
  · exact (nodup_listDevices _ backend).filter _
  · rw [List.mem_filter, List.mem_filter, mem_map_listDevices, decide_eq_true_iff, and_comm]
    refine and_congr_right fun mem => ?_
    obtain ⟨own, isKnown⟩ := OrderedMap.contains_iff.mp (known device mem)
    simp [isKnown, Backend.cacheOf, Criteria.selects, Specifier.covers, Specifier.any]

end Group

/-! ## Writings to groups -/

/-- **A writing to a group goes from member to member and stops at the first one that lacks a code**: on every site
that lines reach, for every group and all properties, it succeeds exactly if all members have all the codes, and
then each of them holds the new values, on the network and in the cache. If it fails, the error names a member that
lacks a code; the members in front of this one hold the new values, and it and those behind it hold what they held,
as everything else does. A writing to a single device that fails changes nothing. -/
theorem writing_of_group {start : Backend} {entries : List DeviceEntry}
    (accepted : Backend.ofEntries entries = .ok start) (reached : Reaches start backend) {name : String}
    {members : List Endpoint} (bound : backend.groups.get? name = some members) (now : Time)
    (properties : List Property) :
    ((∃ outcome, (carryOut now (.set ⟨.group name, properties⟩) backend).1 = .ok outcome) ↔
      ∀ member ∈ members, (backend.holding member).Supports properties)
    ∧ (∀ outcome, (carryOut now (.set ⟨.group name, properties⟩) backend).1 = .ok outcome →
      EachOf (Holding.Written properties) members backend (carryOut now (.set ⟨.group name, properties⟩) backend).2)
    ∧ (∀ error, (carryOut now (.set ⟨.group name, properties⟩) backend).1 = .error error →
      ∃ done refusing rest wanted, members = done ++ refusing :: rest
        ∧ error = .execution (.failed (.cannotSet refusing wanted.epc))
        ∧ wanted ∈ properties ∧ (backend.holding refusing).value? wanted.epc = none
        ∧ EachOf (Holding.Written properties) done backend (carryOut now (.set ⟨.group name, properties⟩) backend).2)
    ∧ ∀ specifier error, (carryOut now (.set ⟨.device specifier, properties⟩) backend).1 = .error error →
      (carryOut now (.set ⟨.device specifier, properties⟩) backend).2 = backend := by
  have sound := (sound_of_ofEntries accepted).changes reached.changes
  have single : ∀ specifier error, (carryOut now (.set ⟨.device specifier, properties⟩) backend).1 = .error error →
      (carryOut now (.set ⟨.device specifier, properties⟩) backend).2 = backend :=
    fun specifier => @route_intact now (.set ⟨.device specifier, properties⟩) (by rintro ⟨_, ⟨⟩⟩) backend
  have routed : carryOut now (.set ⟨.group name, properties⟩) backend
      = runOn (Router.writing now ⟨.group name, properties⟩) backend := rfl
  rw [routed]
  rcases writing_members sound bound now properties with
    ⟨rows, after, ran, -, written⟩ | ⟨done, refusing, rest, wanted, after, parts, ran, mem, lacks, written⟩
  · rw [ran]
    refine ⟨⟨fun _ member isMember => (written.reached member isMember).supported, fun _ => ⟨_, rfl⟩⟩, ?_, ?_, single⟩
    · exact fun _ _ => written
    · exact fun error never => by cases never
  · rw [ran]
    refine ⟨⟨?_, fun all => ?_⟩, ?_, ?_, single⟩
    · rintro ⟨outcome, ⟨⟩⟩
    · have isMember : refusing ∈ members := parts ▸ List.mem_append_right _ List.mem_cons_self
      have found := all refusing isMember wanted mem
      rw [lacks] at found
      cases found
    · exact fun outcome never => by cases never
    · rintro error ⟨⟩
      exact ⟨done, refusing, rest, wanted, parts, rfl, mem, lacks, written⟩

/-- The second of the two air conditioners, which does not tell whether it is on. -/
def secondConditioner : Endpoint := ⟨.v4 ⟨10, 0, 0, 2⟩, ⟨⟨0x0130⟩, 1⟩⟩

/-- The entries of a settings file with the two air conditioners. -/
def entriesOfTwo : List DeviceEntry :=
  [⟨"10.0.0.1", "0130:1", ["80:30", "B0:41"]⟩, ⟨"10.0.0.2", "0130:1", ["B0:42"]⟩]

theorem ofEntries_two : Backend.ofEntries entriesOfTwo = .ok siteOfTwo := rfl

theorem reaches_siteOfGroup : Reaches siteOfTwo siteOfGroup :=
  .line 2 "group add @all 10.0.0.1 10.0.0.2" (.line 1 "discover" .refl)

/-- Turning off the members of the group stops at the second member, and the first one is off. -/
theorem writing_of_group_refused :
    siteOfGroup.groups.get? "@all" = some [airConditioner, secondConditioner]
    ∧ (carryOut 3 (.set turnOffAll) siteOfGroup).1
      = .error (.execution (.failed (.cannotSet secondConditioner ⟨0x80⟩)))
    ∧ EachOf (Holding.Written [⟨⟨0x80⟩, [0x31]⟩]) [airConditioner] siteOfGroup
        (carryOut 3 (.set turnOffAll) siteOfGroup).2 := by
  have bound : siteOfGroup.groups.get? "@all" = some [airConditioner, secondConditioner] := by decide +kernel
  have failed : (carryOut 3 (.set turnOffAll) siteOfGroup).1
      = .error (.execution (.failed (.cannotSet secondConditioner ⟨0x80⟩))) := by decide +kernel
  have stopped := (writing_of_group ofEntries_two reaches_siteOfGroup bound 3 [⟨⟨0x80⟩, [0x31]⟩]).2.2.1 _ failed
  obtain ⟨done, refusing, rest, wanted, parts, same, -, -, written⟩ := stopped
  injection same with same
  injection same with same
  injection same with isSecond
  subst isSecond
  have front : done = [airConditioner] := by
    rcases done with _ | ⟨first, _ | ⟨another, more⟩⟩
    · have clash : airConditioner = secondConditioner := (List.cons.inj parts).1
      cases clash
    · rw [← (List.cons.inj parts).1]
    · have lengths := congrArg List.length parts
      simp at lengths
  exact ⟨bound, failed, front ▸ written⟩

/-- A writing to a group that fails has changed a member: the first air conditioner was on and is off, on the
network and in the cache. -/
theorem writing_of_group_partial :
    Backend.ofEntries entriesOfTwo = .ok siteOfTwo ∧ Reaches siteOfTwo siteOfGroup
    ∧ siteOfGroup.groups.get? "@all" = some [airConditioner, secondConditioner]
    ∧ siteOfGroup.directory.parse "set @all 80:31" = .ok (.set turnOffAll)
    ∧ (∃ error, (siteOfGroup.lineOn 3 "set @all 80:31").1 = .error error)
    ∧ (siteOfGroup.holding airConditioner).value? ⟨0x80⟩ = some ⟨⟨0x80⟩, [0x30]⟩
    ∧ (siteOfGroup.holding airConditioner).cached? ⟨0x80⟩ = some ⟨⟨0x80⟩, [0x30]⟩
    ∧ ((siteOfGroup.lineOn 3 "set @all 80:31").2.holding airConditioner).value? ⟨0x80⟩ = some ⟨⟨0x80⟩, [0x31]⟩
    ∧ ((siteOfGroup.lineOn 3 "set @all 80:31").2.holding airConditioner).cached? ⟨0x80⟩
      = some ⟨⟨0x80⟩, [0x31]⟩ := by
  have failed : (siteOfGroup.lineOn 3 "set @all 80:31").1
      = .error (.execution (.failed (.cannotSet secondConditioner ⟨0x80⟩))) := by decide +kernel
  refine ⟨ofEntries_two, reaches_siteOfGroup, ?_, ?_, ⟨_, failed⟩, ?_, ?_, ?_, ?_⟩
  · decide +kernel
  · decide +kernel
  · decide +kernel
  · decide +kernel
  · decide +kernel
  · decide +kernel

end DeviceConsole
