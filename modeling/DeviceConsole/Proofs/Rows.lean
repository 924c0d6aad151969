import DeviceConsole.Proofs.Backend.Coherent
import DeviceConsole.Proofs.Reachable
import Mathlib.Data.List.Nodup

/-!
# `Proofs.Rows` — rows of readings and listings

A reading asks the network and a listing asks the cache, and both make rows of what they find. On a coherent site
the two agree value by value, so a listing tells what a reading would answer at this moment.

* `findDevices_exact` — the specifier of a known device finds this device alone;
* `getProperties_ok`, `reading_of_one` — what a reading of supported codes answers;
* `listing_cases` — what a listing is made of;
* `coherent_of_reaches` — every site that lines reach is coherent, and what a listing shows a reading answers.
-/

namespace DeviceConsole

open Device (Endpoint Epc Property Specifier assignAll findEpc? mem_of_findEpc?)
open Device.PropertyTable (describeValue epcName?)
open Router (addRow deviceRow groupKey present shownEpcs)

variable {backend : Backend}

/-! ## One device -/

theorem covers_exact {device other : Endpoint} : (Specifier.exact device).covers other = true ↔ other = device := by
  obtain ⟨ip, classCode, instanceCode⟩ := device
  obtain ⟨otherIp, otherClass, otherInstance⟩ := other
  simp only [Specifier.covers, Specifier.exact, Option.all_some, Bool.and_eq_true, decide_eq_true_eq,
    Endpoint.mk.injEq, Device.Eoj.mk.injEq]
  constructor
  · rintro ⟨⟨rfl, rfl⟩, rfl⟩
    exact ⟨rfl, rfl, rfl⟩
  · rintro ⟨rfl, rfl, rfl⟩
    exact ⟨⟨rfl, rfl⟩, rfl⟩

/-- **The specifier of a known device finds this device alone.** -/
theorem findDevices_exact {device : Endpoint} (known : backend.known.contains device = true) :
    backend.findDevices (.exact device) = [device] := by
  have only : backend.findDevices (.exact device) = backend.known.keys.filter fun other => other = device :=
    List.filter_congr fun other _ => by rw [Bool.eq_iff_iff, covers_exact, decide_eq_true_iff]
  rw [only, List.filter_eq, List.count_eq_one_of_mem backend.known.nodup_keys (OrderedMap.mem_keys.mpr known)]
  rfl

/-! ## Readings -/

/-- The row of a property of a device of some class. -/
def propertyRow (classCode : Device.ClassCode) (property : Property) : PropertyRow :=
  ⟨property.epc, epcName? classCode property.epc, describeValue classCode property⟩

/-- A reading of supported codes answers with the first entry of each, and caches it. -/
theorem getProperties_ok (now : Time) {device : Endpoint} {onNetwork : List Property} {epcs : List Epc}
    {skipValidation : Bool} (allowed : (skipValidation || backend.known.contains device) = true)
    (reached : backend.network.get? device = some onNetwork)
    (supported : ∀ epc ∈ epcs, (findEpc? epc onNetwork).isSome = true) :
    runOn (Backend.getProperties now device epcs skipValidation) backend
      = (.ok ⟨device, backend.aliasOf? device, epcs.filterMap fun epc => findEpc? epc onNetwork, now⟩,
        { backend with
          known := backend.known.insert device
            ⟨assignAll (epcs.filterMap fun epc => findEpc? epc onNetwork) (backend.cacheOf device), now⟩ }) := by
  obtain ⟨result, after, ran, outcome⟩ := getProperties_outcome backend now device epcs skipValidation
  rw [ran]
  cases outcome with
  | unknown unknown => exact absurd allowed unknown
  | silent _ gone =>
    rw [reached] at gone
    cases gone
  | @lacking own missing _ same some_missing lacks =>
    rw [reached, Option.some.injEq] at same
    subst same
    obtain ⟨epc, mem⟩ := List.exists_mem_of_ne_nil _ some_missing
    obtain ⟨asked, none⟩ := (lacks epc).mp mem
    have found := supported epc asked
    rw [none] at found
    cases found
  | answered _ same =>
    rw [reached, Option.some.injEq] at same
    subst same
    rfl

/-- A target that stands for one device is resolved to it. -/
theorem runOn_resolve_one {specifier : Specifier} {device : Endpoint}
    (only : backend.findDevices specifier = [device]) (allowUnknown : Bool) :
    runOn (Router.resolve (.device specifier) allowUnknown) backend = (.ok [device], backend) := by
  unfold Router.resolve
  simp only [runOn_get_bind, only]
  rfl

/-- **A reading of one property of one device** answers with the row of its first entry on the network. -/
theorem reading_of_one (now : Time) {specifier : Specifier} {device : Endpoint} {onNetwork : List Property}
    {property : Property} (skipValidation : Bool) (only : backend.findDevices specifier = [device])
    (reached : backend.network.get? device = some onNetwork)
    (found : findEpc? property.epc onNetwork = some property) :
    (carryOut now (.get ⟨.device specifier, [property.epc], skipValidation⟩) backend).1
      = .ok { answer := .devices [⟨device, backend.aliasOf? device,
                [propertyRow device.eoj.classCode property], some now⟩]
              devices := 1 } := by
  have listed : device ∈ backend.findDevices specifier := only ▸ List.mem_singleton_self device
  have allowed : (skipValidation || backend.known.contains device) = true := by
    rw [contains_of_findDevices listed, Bool.or_true]
  have supported : ∀ epc ∈ [property.epc], (findEpc? epc onNetwork).isSome = true := by simp [found]
  have read := getProperties_ok now allowed reached supported
  have answered : [property.epc].filterMap (fun epc => findEpc? epc onNetwork) = [property] := by simp [found]
  have row : deviceRow ⟨device, backend.aliasOf? device, [property], now⟩ [property.epc]
      = ⟨device, backend.aliasOf? device, [propertyRow device.eoj.classCode property], some now⟩ := by
    simp [deviceRow, findEpc?, propertyRow]
  rw [answered] at read
  show (runOn (Router.reading now _) backend).1 = _
  unfold Router.reading
  simp only [runOn_bind, runOn_resolve_one only, List.mapM_cons, List.mapM_nil, read]
  rw [← row]
  rfl

/-! ## Listings -/

/-- What a listing tells of a device is what its cache holds. -/
theorem mem_listDevices {criteria : Device.Criteria} {snapshot : Snapshot}
    (mem : snapshot ∈ backend.listDevices criteria) :
    ∃ known, backend.known.get? snapshot.device = some known
      ∧ snapshot = ⟨snapshot.device, backend.aliasOf? snapshot.device, known.properties, known.updated⟩ := by
  obtain ⟨⟨device, known⟩, selected, rfl⟩ := List.mem_map.mp mem
  exact ⟨known, OrderedMap.get?_eq_some_iff.mpr (List.mem_filter.mp selected).1, rfl⟩

/-- **The question for the devices of a listing changes nothing**, and it finds known devices that criteria select, in
order. -/
theorem listed_cases (command : DevicesCommand) (backend : Backend) :
    (∃ snapshots criteria, runOn (Router.listed command) backend = (.ok snapshots, backend)
      ∧ snapshots.Sublist (backend.listDevices criteria))
    ∨ ∃ error, runOn (Router.listed command) backend = (.error error, backend) := by
  unfold Router.listed
  cases command.target with
  | none => exact .inl ⟨_, _, rfl, .refl _⟩
  | some target =>
    cases target with
    | device specifier => exact .inl ⟨_, _, rfl, .refl _⟩
    | group name =>
      simp only [runOn_bind, runOn_members]
      cases backend.groups.get? name with
      | none => exact .inr ⟨_, rfl⟩
      | some own => exact .inl ⟨_, _, rfl, List.filter_sublist⟩

/-- A listing presents the devices that are found. -/
theorem runOn_listing (command : DevicesCommand) (backend : Backend) :
    runOn (Router.listing command) backend
      = match runOn (Router.listed command) backend with
        | (.ok snapshots, after) => (.ok { answer := present command snapshots, devices := snapshots.length }, after)
        | (.error error, after) => (.error error, after) := by
  unfold Router.listing
  rw [runOn_bind]
  rcases runOn (Router.listed command) backend with ⟨error | snapshots, after⟩
  · rfl
  · rfl

/-- **A listing changes nothing**, and if it succeeds it presents what the caches of some known devices hold. -/
theorem listing_cases (command : DevicesCommand) (backend : Backend) :
    (∃ snapshots, runOn (Router.listing command) backend
        = (.ok { answer := present command snapshots, devices := snapshots.length }, backend)
      ∧ ∀ snapshot ∈ snapshots, ∃ criteria, snapshot ∈ backend.listDevices criteria)
    ∨ ∃ error, runOn (Router.listing command) backend = (.error error, backend) := by
  rw [runOn_listing]
  rcases listed_cases command backend with ⟨snapshots, criteria, ran, listed⟩ | ⟨error, ran⟩
  · rw [ran]
    exact .inl ⟨snapshots, rfl, fun snapshot mem => ⟨criteria, listed.subset mem⟩⟩
  · rw [ran]
    exact .inr ⟨error, rfl⟩

/-- The rows of an answer, those under keys included. -/
def Answer.rows : Answer → List DeviceRow
  | .devices rows => rows
  | .grouped _ parts => parts.flatMap Prod.snd
  | _ => []

/-- A row under a key is the new one or was there before. -/
theorem mem_addRow {key : String} {row : DeviceRow} {groups : List (String × List DeviceRow)}
    {group : String × List DeviceRow} (mem : group ∈ addRow key row groups) {other : DeviceRow}
    (inGroup : other ∈ group.2) :
    (group.1 = key ∧ other = row) ∨ ∃ old ∈ groups, old.1 = group.1 ∧ other ∈ old.2 := by
  induction groups with
  | nil =>
    cases List.mem_singleton.mp mem
    exact .inl ⟨rfl, List.mem_singleton.mp inGroup⟩
  | cons first rest ih =>
    rw [addRow] at mem
    by_cases same : first.1 = key
    · rw [if_pos same] at mem
      rcases List.mem_cons.mp mem with rfl | later
      · rcases List.mem_append.mp inGroup with before | added
        · exact .inr ⟨first, List.mem_cons_self, same, before⟩
        · exact .inl ⟨rfl, List.mem_singleton.mp added⟩
      · exact .inr ⟨group, List.mem_cons_of_mem _ later, rfl, inGroup⟩
    · rw [if_neg same] at mem
      rcases List.mem_cons.mp mem with rfl | later
      · exact .inr ⟨group, List.mem_cons_self, rfl, inGroup⟩
      · rcases ih later with new | ⟨old, inRest, before⟩
        · exact .inl new
        · exact .inr ⟨old, List.mem_cons_of_mem _ inRest, before⟩

/-- Every row under a key is the row of a device with this key. -/
theorem mem_foldl_addRow {key : Snapshot → String} {row : Snapshot → DeviceRow} {snapshots : List Snapshot}
    {groups : List (String × List DeviceRow)} {group : String × List DeviceRow}
    (mem : group ∈ snapshots.foldl (fun groups snapshot => addRow (key snapshot) (row snapshot) groups) groups)
    {other : DeviceRow} (inGroup : other ∈ group.2) :
    (∃ snapshot ∈ snapshots, group.1 = key snapshot ∧ other = row snapshot)
    ∨ ∃ old ∈ groups, old.1 = group.1 ∧ other ∈ old.2 := by
  induction snapshots generalizing groups with
  | nil => exact .inr ⟨group, mem, rfl, inGroup⟩
  | cons snapshot rest ih =>
    rcases ih mem with ⟨found, inRest, shown⟩ | ⟨old, inOld, sameKey, inRows⟩
    · exact .inl ⟨found, List.mem_cons_of_mem _ inRest, shown⟩
    · rcases mem_addRow inOld inRows with ⟨new, rfl⟩ | ⟨first, inFirst, sameFirst, before⟩
      · exact .inl ⟨snapshot, List.mem_cons_self, sameKey ▸ new, rfl⟩
      · exact .inr ⟨first, inFirst, sameFirst.trans sameKey, before⟩

/-- The groups of a listing hold rows of its devices, each under the key of its device. -/
theorem present_groups {command : DevicesCommand} {snapshots : List Snapshot} {epc : Epc}
    {groups : List (String × List DeviceRow)} (shown : present command snapshots = .grouped epc groups)
    {group : String × List DeviceRow} (mem : group ∈ groups) {row : DeviceRow} (inGroup : row ∈ group.2) :
    ∃ snapshot ∈ snapshots, group.1 = groupKey epc snapshot
      ∧ row = deviceRow snapshot (shownEpcs command snapshot) := by
  unfold present at shown
  cases by_ : command.groupBy with
  | none => rw [by_] at shown; cases shown
  | some own =>
    rw [by_] at shown
    cases shown
    exact (mem_foldl_addRow mem inGroup).resolve_right (by simp)

/-- Every row of a listing is the row of one of its devices. -/
theorem mem_rows_present {command : DevicesCommand} {snapshots : List Snapshot} {row : DeviceRow}
    (mem : row ∈ (present command snapshots).rows) :
    ∃ snapshot ∈ snapshots, row = deviceRow snapshot (shownEpcs command snapshot) := by
  cases shown : present command snapshots with
  | grouped epc groups =>
    rw [shown] at mem
    obtain ⟨group, inGroups, inGroup⟩ := List.mem_flatMap.mp mem
    obtain ⟨snapshot, inSnapshots, -, same⟩ := present_groups shown inGroups inGroup
    exact ⟨snapshot, inSnapshots, same⟩
  | devices rows =>
    rw [shown] at mem
    unfold present at shown
    cases by_ : command.groupBy with
    | some own => rw [by_] at shown; cases shown
    | none =>
      rw [by_] at shown
      cases shown
      obtain ⟨snapshot, inSnapshots, rfl⟩ := List.mem_map.mp mem
      exact ⟨snapshot, inSnapshots, rfl⟩
  | _ => rw [shown] at mem; cases mem

/-- A property in a row is the first one of its code among what is told of the device. -/
theorem mem_deviceRow {snapshot : Snapshot} {epcs : List Epc} {shown : PropertyRow}
    (mem : shown ∈ (deviceRow snapshot epcs).properties) :
    ∃ property, findEpc? property.epc snapshot.properties = some property
      ∧ shown = propertyRow snapshot.device.eoj.classCode property := by
  obtain ⟨property, found, rfl⟩ := List.mem_map.mp mem
  obtain ⟨epc, -, first⟩ := List.mem_filterMap.mp found
  exact ⟨property, (mem_of_findEpc? first).2 ▸ first, rfl⟩

/-! ## What a listing shows a reading answers -/

/-- A reading of the code of a shown property, aimed at the device of the row by any specifier that finds only this
device, answers with the same row of the property. The exact specifier of the device is one of these. -/
def Backend.GetShows (backend : Backend) (row : DeviceRow) (shown : PropertyRow) : Prop :=
  backend.findDevices (.exact row.device) = [row.device]
    ∧ ∀ now specifier skipValidation, backend.findDevices specifier = [row.device] →
        (carryOut now (.get ⟨.device specifier, [shown.epc], skipValidation⟩) backend).1
          = .ok { answer := .devices [{ row with properties := [shown], updated := some now }], devices := 1 }

/-- On a coherent site every cached value that is found is the one that a reading gets. -/
theorem Backend.Coherent.getShows (coherent : backend.Coherent) {criteria : Device.Criteria} {snapshot : Snapshot}
    (mem : snapshot ∈ backend.listDevices criteria) {property : Property}
    (cached : findEpc? property.epc snapshot.properties = some property) (epcs : List Epc) :
    backend.GetShows (deviceRow snapshot epcs) (propertyRow snapshot.device.eoj.classCode property) := by
  obtain ⟨known, found, told⟩ := mem_listDevices mem
  obtain ⟨onNetwork, reached, agrees⟩ := coherent _ known found
  have aliasName : (deviceRow snapshot epcs).aliasName = backend.aliasOf? snapshot.device :=
    congrArg Snapshot.aliasName told
  refine ⟨findDevices_exact (OrderedMap.contains_iff.mpr ⟨known, found⟩), ?_⟩
  intro now specifier skipValidation only
  rw [told] at cached
  refine (reading_of_one now skipValidation only reached (agrees _ _ cached)).trans ?_
  rw [aliasName]
  rfl

/-- Nothing is known on the first site, so its caches agree with the network. -/
theorem coherent_of_ofEntries {start : Backend} {entries : List DeviceEntry}
    (accepted : Backend.ofEntries entries = .ok start) : start.Coherent := by
  obtain ⟨network, rfl⟩ := addEntries_network accepted
  intro device known found
  cases found

/-- **Every site that lines reach is coherent**: a known device is on the network, and of every code in its cache
the first entry is the first entry on the network. So whatever a listing shows of a device, as a value in a row or
as the key of its group, a reading of this code answers the same at this moment. -/
theorem coherent_of_reaches {start : Backend} {entries : List DeviceEntry}
    (accepted : Backend.ofEntries entries = .ok start) (reached : Reaches start backend) :
    backend.Coherent
    ∧ ∀ earlier command outcome, (carryOut earlier (.devices command) backend).1 = .ok outcome →
        (∀ row ∈ outcome.answer.rows, ∀ shown ∈ row.properties,
          (carryOut earlier (.devices command) backend).2.GetShows row shown)
        ∧ ∀ epc groups, outcome.answer = .grouped epc groups → ∀ group ∈ groups, ∀ row ∈ group.2,
            (findEpc? epc (backend.cacheOf row.device) = none ∧ group.1 = "(none)")
            ∨ ∃ shown, shown.epc = epc ∧ shown.value = group.1
                ∧ (carryOut earlier (.devices command) backend).2.GetShows row shown := by
  have coherent := (coherent_of_ofEntries accepted).changes reached.changes
  refine ⟨coherent, fun earlier command outcome succeeded => ?_⟩
  have after : (carryOut earlier (.devices command) backend).2 = backend := listing_reads command backend
  rw [after]
  rcases listing_cases command backend with ⟨snapshots, ran, cached⟩ | ⟨error, ran⟩
  · have same : outcome.answer = present command snapshots := by
      have both : (Except.ok outcome : Except ConsoleError Outcome) = .ok _ :=
        succeeded.symm.trans (congrArg Prod.fst ran)
      rw [Except.ok.inj both]
    rw [same]
    constructor
    · intro row inRows shown inRow
      obtain ⟨snapshot, mem, rfl⟩ := mem_rows_present inRows
      obtain ⟨criteria, listed⟩ := cached snapshot mem
      obtain ⟨property, found, rfl⟩ := mem_deviceRow inRow
      exact coherent.getShows listed found _
    · intro epc groups grouped group inGroups row inGroup
      obtain ⟨snapshot, mem, key, rfl⟩ := present_groups grouped inGroups inGroup
      obtain ⟨criteria, listed⟩ := cached snapshot mem
      obtain ⟨known, isKnown, told⟩ := mem_listDevices listed
      have cache : backend.cacheOf snapshot.device = snapshot.properties := by
        rw [told, Backend.cacheOf, isKnown]
        rfl
      cases found : findEpc? epc snapshot.properties with
      | none =>
        left
        rw [key, groupKey, found]
        exact ⟨by rw [← found, ← cache]; rfl, rfl⟩
      | some property =>
        have code := (mem_of_findEpc? found).2
        right
        refine ⟨propertyRow snapshot.device.eoj.classCode property, code, ?_, ?_⟩
        · rw [key, groupKey, found]
          rfl
        · exact coherent.getShows listed (code ▸ found) _
  · have both : (Except.ok outcome : Except ConsoleError Outcome) = .error error :=
      succeeded.symm.trans (congrArg Prod.fst ran)
    cases both

/-- An air conditioner with two entries of one code. -/
def airConditioner : Endpoint := ⟨.v4 ⟨10, 0, 0, 1⟩, ⟨⟨0x0130⟩, 1⟩⟩

/-- The site of this air conditioner. -/
def siteOfRepeats : Backend :=
  Backend.empty.withDevice airConditioner [⟨⟨0x80⟩, [0x30]⟩, ⟨⟨0x80⟩, [0x32]⟩, ⟨⟨0xB0⟩, [0x42]⟩]

/-- The air conditioner becomes known by a reading of one code and is then given two values for it. A listing shows
the second value, and so does a reading. -/
theorem coherent_of_reaches_partial :
    ∃ found written row shown, Reaches siteOfRepeats found ∧ Reaches found written ∧ written.Coherent
      ∧ found.cacheOf airConditioner = [⟨⟨0x80⟩, [0x30]⟩]
      ∧ written.network.get? airConditioner = some [⟨⟨0x80⟩, [0x31]⟩, ⟨⟨0x80⟩, [0x32]⟩, ⟨⟨0xB0⟩, [0x42]⟩]
      ∧ (carryOut 3 (.devices { mode := .all }) written).1 = .ok { answer := .devices [row], devices := 1 }
      ∧ row.properties = [shown] ∧ shown.value = "off" ∧ written.GetShows row shown := by
  have accepted : Backend.ofEntries [⟨"10.0.0.1", "0130:1", ["80:30", "80:32", "B0:42"]⟩] = .ok siteOfRepeats := rfl
  have reached : Reaches siteOfRepeats (siteOfRepeats.lineOn 1 "get 10.0.0.1 0130 80 -skip-validation").2 :=
    .line 1 _ .refl
  have onwards : Reaches (siteOfRepeats.lineOn 1 "get 10.0.0.1 0130 80 -skip-validation").2
      ((siteOfRepeats.lineOn 1 "get 10.0.0.1 0130 80 -skip-validation").2.lineOn 2 "set 10.0.0.1 80:30 80:31").2 :=
    .line 2 _ .refl
  have both : Reaches siteOfRepeats
      ((siteOfRepeats.lineOn 1 "get 10.0.0.1 0130 80 -skip-validation").2.lineOn 2 "set 10.0.0.1 80:30 80:31").2 :=
    .line 2 _ reached
  obtain ⟨coherent, shows⟩ := coherent_of_reaches accepted both
  have listed : (carryOut 3 (.devices { mode := .all })
        ((siteOfRepeats.lineOn 1 "get 10.0.0.1 0130 80 -skip-validation").2.lineOn 2 "set 10.0.0.1 80:30 80:31").2).1
      = .ok { answer := .devices [⟨airConditioner, none,
                [⟨⟨0x80⟩, some "Operation status", "off"⟩], some 2⟩]
              devices := 1 } := by decide +kernel
  refine ⟨_, _, _, _, reached, onwards, coherent, by decide +kernel, by decide +kernel, listed, rfl, rfl, ?_⟩
  have shown := (shows 3 { mode := .all } _ listed).1 _ (List.mem_singleton_self _) _ (List.mem_singleton_self _)
  rwa [show (carryOut 3 (.devices { mode := .all }) _).2 = _ from listing_reads { mode := .all } _] at shown

end DeviceConsole
