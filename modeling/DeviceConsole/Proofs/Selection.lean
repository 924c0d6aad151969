import DeviceConsole.Proofs.Members

/-!
# `Proofs.Selection` — which devices a listing shows, and what of them

The site selects known devices by a specifier and by cached values, and the router drops those that are not in the
group of the target. What a row shows is cut from the cache by the display mode. Here a listing is described by what
it selects, without the steps in which it is found.

* `aliasOf?_eq_some_iff`, `aliasOf?_eq_none_iff` — the alias of a device is the least one;
* `mem_listDevices_iff`, `ascending_listDevices` — what the site tells of the devices that criteria select;
* `mem_selected_iff`, `mem_findDevices_iff` — the devices that the site selects or finds;
* `findEpc?_eq_some_iff`, `epcs_deviceRow` — the values in a row;
* `Backend.Chosen`, `RowOf`, `Backend.Lists` — the devices of a listing, their rows, and all rows together;
* `listing_selects` — **a listing is exactly the selected devices**.
-/

namespace DeviceConsole

open Device (ClassCode Criteria Endpoint Epc Property Specifier findEpc? mem_epcs_iff mem_of_findEpc?)
open Device.PropertyTable (defaultEpcs knownEpcs)
open Router (deviceRow present shownEpcs)

variable {backend : Backend} {device : Endpoint}

/-! ## The alias of a device -/

/-- The alias is bound to the device, and it is the least one that is. -/
structure Backend.LeastAlias (backend : Backend) (device : Endpoint) (name : String) : Prop where
  bound : backend.aliases.get? name = some device
  least : ∀ other, backend.aliases.get? other = some device → other = name ∨ OrderKey.Before name other

/-- **The alias that is told of a device is the least one that is bound to it.** -/
theorem aliasOf?_eq_some_iff {name : String} :
    backend.aliasOf? device = some name ↔ backend.LeastAlias device name := by
  have first : ∀ name, backend.aliasOf? device = some name → backend.LeastAlias device name := by
    intro name told
    obtain ⟨⟨own, target⟩, found, rfl⟩ := Option.map_eq_some_iff.mp told
    obtain ⟨isDevice, front, behind, parts, others⟩ := List.find?_eq_some_iff_append.mp found
    obtain rfl : target = device := by simpa using isDevice
    refine ⟨OrderedMap.get?_eq_some_iff.mpr (List.mem_of_find?_eq_some found), fun other bound => ?_⟩
    have mem := OrderedMap.get?_eq_some_iff.mp bound
    have ascending : Ascending (front ++ (own, target) :: behind) := parts ▸ backend.aliases.ascending
    rw [parts] at mem
    rcases List.mem_append.mp mem with inFront | here
    · have notFirst := others _ inFront
      simp at notFirst
    · rcases List.mem_cons.mp here with same | later
      · exact .inl (congrArg Prod.fst same)
      · exact .inr ((List.pairwise_cons.mp (List.pairwise_append.mp ascending).2.1).1 _ later)
  refine ⟨first name, fun ⟨bound, least⟩ => ?_⟩
  cases told : backend.aliasOf? device with
  | none =>
    rw [Backend.aliasOf?, Option.map_eq_none_iff, List.find?_eq_none] at told
    have other := told _ (OrderedMap.get?_eq_some_iff.mp bound)
    simp at other
  | some own =>
    have ownLeast := first own told
    -- of two least aliases each is the other one
    rcases least own ownLeast.bound with same | before
    · rw [same]
    · rcases ownLeast.least name bound with same | behind
      · rw [same]
      · exact absurd (before.trans behind) (OrderKey.not_before_self _)

/-- No alias is told of a device exactly if none is bound to it. -/
theorem aliasOf?_eq_none_iff :
    backend.aliasOf? device = none ↔ ∀ name, backend.aliases.get? name ≠ some device := by
  rw [Backend.aliasOf?, Option.map_eq_none_iff, List.find?_eq_none]
  constructor
  · intro nobody name bound
    have other := nobody _ (OrderedMap.get?_eq_some_iff.mp bound)
    simp at other
  · rintro unbound ⟨name, target⟩ mem
    have other := unbound name
    rw [OrderedMap.get?_eq_some_iff.mpr mem] at other
    simpa using other

/-! ## Devices that criteria select -/

/-- The parts that a specifier gives are those of the device. -/
structure Fits (specifier : Specifier) (device : Endpoint) : Prop where
  ip : ∀ ip ∈ specifier.ip, ip = device.ip
  classCode : ∀ classCode ∈ specifier.classCode, classCode = device.eoj.classCode
  instanceCode : ∀ instanceCode ∈ specifier.instanceCode, instanceCode = device.eoj.instanceCode

theorem covers_iff {specifier : Specifier} : specifier.covers device = true ↔ Fits specifier device := by
  simp only [Specifier.covers, Bool.and_eq_true, Option.all_eq_true, decide_eq_true_eq]
  exact ⟨fun ⟨⟨ip, classCode⟩, instanceCode⟩ => ⟨ip, classCode, instanceCode⟩,
    fun ⟨ip, classCode, instanceCode⟩ => ⟨⟨ip, classCode⟩, instanceCode⟩⟩

theorem fits_any : Fits .any device := covers_iff.mp rfl

/-- What the site tells of a known device. -/
def Backend.snapshotOf (backend : Backend) (device : Endpoint) (known : KnownDevice) : Snapshot :=
  ⟨device, backend.aliasOf? device, known.properties, known.updated⟩

theorem selects_iff {specifier : Specifier} {filters cache : List Property} :
    Criteria.selects ⟨specifier, filters⟩ device cache = true
      ↔ Fits specifier device ∧ ∀ property ∈ filters, property ∈ cache := by
  rw [Criteria.selects, Bool.and_eq_true, covers_iff, List.all_eq_true]
  simp only [List.contains_iff_mem]

/-- The devices that criteria select are known, agree with the specifier and have the values in their caches. -/
theorem mem_selected_iff {specifier : Specifier} {filters : List Property} {known : KnownDevice} :
    (device, known) ∈ backend.selected ⟨specifier, filters⟩
      ↔ backend.known.get? device = some known ∧ Fits specifier device
        ∧ ∀ property ∈ filters, property ∈ known.properties := by
  rw [Backend.selected, List.mem_filter, OrderedMap.get?_eq_some_iff, selects_iff]

/-- What the site tells of the devices that criteria select. -/
theorem mem_listDevices_iff {specifier : Specifier} {filters : List Property} {snapshot : Snapshot} :
    snapshot ∈ backend.listDevices ⟨specifier, filters⟩
      ↔ ∃ known, backend.known.get? snapshot.device = some known ∧ Fits specifier snapshot.device
        ∧ (∀ property ∈ filters, property ∈ known.properties)
        ∧ snapshot = backend.snapshotOf snapshot.device known := by
  constructor
  · intro mem
    obtain ⟨⟨device, known⟩, selected, rfl⟩ := List.mem_map.mp mem
    obtain ⟨isKnown, agrees, held⟩ := mem_selected_iff.mp selected
    exact ⟨known, isKnown, agrees, held, rfl⟩
  · rintro ⟨known, isKnown, agrees, held, told⟩
    exact List.mem_map.mpr ⟨(snapshot.device, known), mem_selected_iff.mpr ⟨isKnown, agrees, held⟩, told.symm⟩

/-- The site tells of devices in their order. -/
theorem ascending_listDevices (criteria : Criteria) (backend : Backend) :
    ((backend.listDevices criteria).map Snapshot.device).Pairwise OrderKey.Before := by
  rw [map_device_listDevices]
  exact (List.pairwise_map.mpr backend.known.ascending).sublist (List.filter_sublist.map Prod.fst)

/-- Without filters the devices are those that the site finds by the specifier. -/
theorem devices_of_specifier (specifier : Specifier) (backend : Backend) :
    (backend.listDevices ⟨specifier, []⟩).map Snapshot.device = backend.findDevices specifier := by
  rw [map_device_listDevices, Backend.selected, Backend.findDevices, OrderedMap.keys, List.filter_map]
  congr 1
  refine List.filter_congr fun entry _ => ?_
  simp [Criteria.selects]

/-- The site finds the known devices that agree with the specifier. -/
theorem mem_findDevices_iff {specifier : Specifier} :
    device ∈ backend.findDevices specifier ↔ backend.known.contains device = true ∧ Fits specifier device := by
  rw [Backend.findDevices, List.mem_filter, OrderedMap.mem_keys, covers_iff]

theorem findDevices_eq_nil_iff {specifier : Specifier} :
    backend.findDevices specifier = [] ↔ ∀ other, backend.known.contains other = true → ¬ Fits specifier other := by
  simp only [List.eq_nil_iff_forall_not_mem, mem_findDevices_iff, not_and]

theorem nodup_findDevices (specifier : Specifier) (backend : Backend) : (backend.findDevices specifier).Nodup :=
  backend.known.nodup_keys.filter _

/-! ## Values in a row -/

/-- The property is the first one of its code in the list. -/
def FirstOfCode (property : Property) (properties : List Property) : Prop :=
  ∃ front behind, properties = front ++ property :: behind ∧ ∀ other ∈ front, other.epc ≠ property.epc

/-- What is found of a code is its first entry. -/
theorem findEpc?_eq_some_iff {epc : Epc} {properties : List Property} {property : Property} :
    findEpc? epc properties = some property ↔ property.epc = epc ∧ FirstOfCode property properties := by
  rw [findEpc?, List.find?_eq_some_iff_append]
  constructor
  · rintro ⟨same, front, behind, parts, others⟩
    obtain rfl : property.epc = epc := by simpa using same
    exact ⟨rfl, front, behind, parts, by simpa using others⟩
  · rintro ⟨rfl, front, behind, parts, others⟩
    exact ⟨by simp, front, behind, parts, by simpa using others⟩

/-- **A row shows of the given codes those that are there**, in their order. -/
theorem epcs_deviceRow (snapshot : Snapshot) (epcs : List Epc) :
    (deviceRow snapshot epcs).properties.map PropertyRow.epc
      = epcs.filter fun epc => epc ∈ snapshot.properties.map Property.epc := by
  show (List.map _ (epcs.filterMap fun epc => findEpc? epc snapshot.properties)).map PropertyRow.epc = _
  rw [List.map_map]
  induction epcs with
  | nil => rfl
  | cons epc rest ih =>
    cases found : findEpc? epc snapshot.properties with
    | none =>
      have absent : epc ∉ snapshot.properties.map Property.epc := by
        rw [mem_epcs_iff, found]
        exact Bool.false_ne_true
      rw [List.filter_cons_of_neg (by simpa using absent), ← ih]
      simp only [List.filterMap_cons, found]
    | some property =>
      have present : epc ∈ snapshot.properties.map Property.epc := by
        rw [mem_epcs_iff, found]
        rfl
      have code : property.epc = epc := (mem_of_findEpc? found).2
      rw [List.filter_cons_of_pos (by simpa using present), ← ih]
      simp only [List.filterMap_cons, found, List.map_cons, Function.comp_apply, code]

/-! ## Listings -/

/-- The device is one that a listing with this target is about. -/
def Backend.Aims (backend : Backend) : Option Target → Endpoint → Prop
  | none, _ => True
  | some (.device specifier), device => Fits specifier device
  | some (.group name), device => ∃ members, backend.groups.get? name = some members ∧ device ∈ members

/-- The device is known, the listing is about it, and its cache contains every filter property. -/
structure Backend.Chosen (backend : Backend) (command : DevicesCommand) (device : Endpoint) (known : KnownDevice) :
    Prop where
  isKnown : backend.known.get? device = some known
  aimed : backend.Aims command.target device
  filters : ∀ property ∈ command.properties, property ∈ known.properties

/-- The codes that a listing wants of a device, unless it shows whatever is cached. -/
def DevicesCommand.wanted? (command : DevicesCommand) (classCode : ClassCode) : Option (List Epc) :=
  match command.mode with
  | .default => some (defaultEpcs classCode)
  | .known => some (knownEpcs classCode)
  | .epc => some command.epcs
  | .all => none

/-- The row of a known device: its least alias, and of the codes that are wanted those that are cached, in the wanted
order and each with its first cached value. -/
structure RowOf (backend : Backend) (command : DevicesCommand) (known : KnownDevice) (row : DeviceRow) : Prop where
  named : ∀ name, row.aliasName = some name ↔ backend.LeastAlias row.device name
  unnamed : row.aliasName = none ↔ ∀ name, backend.aliases.get? name ≠ some row.device
  wanted : ∀ epcs, command.wanted? row.device.eoj.classCode = some epcs →
    row.properties.map PropertyRow.epc = epcs.filter fun epc => epc ∈ known.properties.map Property.epc
  all : command.wanted? row.device.eoj.classCode = none →
    row.properties.map PropertyRow.epc = known.properties.map Property.epc
  values : ∀ shown ∈ row.properties, ∃ property, FirstOfCode property known.properties
    ∧ shown = propertyRow row.device.eoj.classCode property
  updated : row.updated = some known.updated

/-- The rows are those of the chosen devices, in ascending order. -/
structure Backend.Lists (backend : Backend) (command : DevicesCommand) (rows : List DeviceRow) : Prop where
  ascending : (rows.map DeviceRow.device).Pairwise OrderKey.Before
  chosen : ∀ device, device ∈ rows.map DeviceRow.device ↔ ∃ known, backend.Chosen command device known
  row : ∀ row ∈ rows, ∃ known, backend.Chosen command row.device known ∧ RowOf backend command known row

/-- What is told of a known device makes its row. -/
theorem rowOf_snapshotOf (command : DevicesCommand) (device : Endpoint) (known : KnownDevice) :
    RowOf backend command known
      (deviceRow (backend.snapshotOf device known) (shownEpcs command (backend.snapshotOf device known))) := by
  have codes := epcs_deviceRow (backend.snapshotOf device known) (shownEpcs command (backend.snapshotOf device known))
  constructor
  case named => exact fun name => aliasOf?_eq_some_iff
  case unnamed => exact aliasOf?_eq_none_iff
  case wanted =>
    intro epcs wanted
    have shown : shownEpcs command (backend.snapshotOf device known) = epcs := by
      unfold DevicesCommand.wanted? at wanted
      unfold shownEpcs
      cases mode : command.mode <;> rw [mode] at wanted <;> cases wanted <;> rfl
    rw [shown] at codes ⊢
    exact codes
  case all =>
    intro wanted
    have shown : shownEpcs command (backend.snapshotOf device known) = known.properties.map Property.epc := by
      unfold DevicesCommand.wanted? at wanted
      unfold shownEpcs
      cases mode : command.mode <;> rw [mode] at wanted <;> cases wanted
      rfl
    rw [codes, shown]
    exact List.filter_eq_self.mpr fun epc mem => decide_eq_true mem
  case values =>
    intro shown mem
    obtain ⟨property, found, same⟩ := mem_deviceRow mem
    exact ⟨property, (findEpc?_eq_some_iff.mp found).2, same⟩
  case updated => rfl

/-- **What a listing finds**: nothing if its target is a group that is not defined, otherwise the chosen devices, in
order, with what is cached of them. -/
theorem listed_chosen (command : DevicesCommand) (backend : Backend) :
    (∃ name, command.target = some (.group name) ∧ backend.groups.get? name = none
      ∧ runOn (Router.listed command) backend = (.error (.execution (.failed (.undefinedGroup name))), backend))
    ∨ ∃ snapshots, runOn (Router.listed command) backend = (.ok snapshots, backend)
      ∧ (snapshots.map Snapshot.device).Pairwise OrderKey.Before
      ∧ ∀ snapshot, snapshot ∈ snapshots ↔ ∃ known, backend.Chosen command snapshot.device known
        ∧ snapshot = backend.snapshotOf snapshot.device known := by
  -- a target that is a specifier, or none, is left to the site
  have by_specifier : ∀ specifier : Specifier, (∀ device, backend.Aims command.target device ↔ Fits specifier device) →
      ∀ snapshot, snapshot ∈ backend.listDevices ⟨specifier, command.properties⟩
        ↔ ∃ known, backend.Chosen command snapshot.device known
          ∧ snapshot = backend.snapshotOf snapshot.device known := by
    intro specifier aims snapshot
    rw [mem_listDevices_iff]
    refine exists_congr fun known => ?_
    rw [← aims]
    exact ⟨fun ⟨isKnown, aimed, held, told⟩ => ⟨⟨isKnown, aimed, held⟩, told⟩,
      fun ⟨⟨isKnown, aimed, held⟩, told⟩ => ⟨isKnown, aimed, held, told⟩⟩
  unfold Router.listed
  cases target : command.target with
  | none =>
    rw [target] at by_specifier
    exact .inr ⟨_, rfl, ascending_listDevices _ _, by_specifier .any fun device => iff_of_true trivial fits_any⟩
  | some aim =>
    cases aim with
    | device specifier =>
      rw [target] at by_specifier
      exact .inr ⟨_, rfl, ascending_listDevices _ _, by_specifier specifier fun device => Iff.rfl⟩
    | group name =>
      simp only [runOn_bind, runOn_members]
      cases bound : backend.groups.get? name with
      | none => exact .inl ⟨name, rfl, bound, rfl⟩
      | some members =>
        refine .inr ⟨_, rfl, ?_, fun snapshot => ?_⟩
        · exact (ascending_listDevices ⟨.any, command.properties⟩ backend).sublist (List.filter_sublist.map _)
        · have aimed : backend.Aims command.target snapshot.device ↔ snapshot.device ∈ members := by
            rw [target, Backend.Aims]
            simp [bound]
          rw [List.mem_filter, mem_listDevices_iff, decide_eq_true_iff, ← aimed]
          constructor
          · rintro ⟨⟨known, isKnown, -, held, told⟩, aims⟩
            exact ⟨known, ⟨isKnown, aims, held⟩, told⟩
          · rintro ⟨known, ⟨isKnown, aims, held⟩, told⟩
            exact ⟨⟨known, isKnown, fits_any, held, told⟩, aims⟩

/-- The rows of what is found are the listing. -/
theorem lists_of_chosen {command : DevicesCommand} {snapshots : List Snapshot}
    (ascending : (snapshots.map Snapshot.device).Pairwise OrderKey.Before)
    (chosen : ∀ snapshot, snapshot ∈ snapshots ↔ ∃ known, backend.Chosen command snapshot.device known
      ∧ snapshot = backend.snapshotOf snapshot.device known) :
    backend.Lists command (snapshots.map fun snapshot => deviceRow snapshot (shownEpcs command snapshot)) := by
  constructor
  case ascending =>
    rw [List.map_map]
    exact ascending
  case chosen =>
    intro device
    rw [List.map_map, List.mem_map]
    constructor
    · rintro ⟨snapshot, mem, rfl⟩
      obtain ⟨known, isChosen, -⟩ := (chosen snapshot).mp mem
      exact ⟨known, isChosen⟩
    · rintro ⟨known, isChosen⟩
      exact ⟨backend.snapshotOf device known, (chosen _).mpr ⟨known, isChosen, rfl⟩, rfl⟩
  case row =>
    intro row mem
    obtain ⟨snapshot, inSnapshots, rfl⟩ := List.mem_map.mp mem
    obtain ⟨known, isChosen, told⟩ := (chosen snapshot).mp inSnapshots
    refine ⟨known, isChosen, ?_⟩
    rw [told]
    exact rowOf_snapshotOf command _ known

/-- **A listing is exactly the selected devices.** On any site a listing without a code to group by leaves the site as
it is. It fails only if its target is a group that is not defined. Otherwise its rows are, in ascending order and
each once, those of the known devices that the specifier matches, or that are in the group, and whose caches contain
every filter property; it tells as many devices as there are rows. Without filters these are the devices that the
site finds by the specifier. -/
theorem listing_selects (now : Time) (command : DevicesCommand) (plain : command.groupBy = none) (backend : Backend) :
    (∃ name, command.target = some (.group name) ∧ backend.groups.get? name = none
      ∧ carryOut now (.devices command) backend
        = (.error (.execution (.failed (.undefinedGroup name))), backend))
    ∨ ((∀ name, command.target = some (.group name) → backend.groups.contains name = true)
      ∧ ∃ rows, carryOut now (.devices command) backend
          = (.ok { answer := .devices rows, devices := rows.length }, backend)
        ∧ backend.Lists command rows
        ∧ (command.properties = [] →
          (command.target = none → rows.map DeviceRow.device = backend.findDevices .any)
          ∧ ∀ specifier, command.target = some (.device specifier) →
            rows.map DeviceRow.device = backend.findDevices specifier)) := by
  have routed : carryOut now (.devices command) backend = runOn (Router.listing command) backend := rfl
  rw [routed, runOn_listing]
  rcases listed_chosen command backend with ⟨name, target, undefined, failed⟩ | ⟨snapshots, ran, ascending, chosen⟩
  · left
    rw [failed]
    exact ⟨name, target, undefined, rfl⟩
  · right
    have shown : present command snapshots
        = .devices (snapshots.map fun snapshot => deviceRow snapshot (shownEpcs command snapshot)) := by
      unfold present
      rw [plain]
    refine ⟨?_, _, ?_, lists_of_chosen ascending chosen, ?_⟩
    · intro name target
      by_contra undefined
      have none : backend.groups.get? name = none := by simpa [OrderedMap.contains] using undefined
      unfold Router.listed at ran
      rw [target] at ran
      simp only [runOn_bind, runOn_members, none] at ran
      cases ran
    · rw [ran, List.length_map, ← shown]
    · intro unfiltered
      rw [List.map_map]
      constructor
      · intro target
        unfold Router.listed at ran
        rw [target, unfiltered] at ran
        cases ran
        exact devices_of_specifier .any backend
      · intro specifier target
        unfold Router.listed at ran
        rw [target, unfiltered] at ran
        cases ran
        exact devices_of_specifier specifier backend

/-- The site of the group, with two aliases for one of its members. -/
def siteOfAliases : Backend :=
  { siteOfGroup with aliases := (OrderedMap.empty.insert "hall" airConditioner).insert "cool" airConditioner }

/-- A listing of two codes of those members of the group that are on. -/
def modesOfGroup : DevicesCommand where
  target := some (.group "@all")
  mode := .epc
  epcs := [⟨0xB0⟩, ⟨0xC0⟩]
  properties := [⟨⟨0x80⟩, [0x30]⟩]

/-- Of the group the air conditioner that is on is listed, under the least of its aliases and with the code that is
cached. -/
theorem listing_selects_group :
    ∃ row, carryOut 3 (.devices modesOfGroup) siteOfAliases
        = (.ok { answer := .devices [row], devices := 1 }, siteOfAliases)
      ∧ siteOfAliases.Lists modesOfGroup [row]
      ∧ row.aliasName = some "cool" ∧ row.properties.map PropertyRow.epc = [⟨0xB0⟩] := by
  have defined : siteOfAliases.groups.get? "@all" = some [airConditioner, secondConditioner] := by decide +kernel
  have listed : (carryOut 3 (.devices modesOfGroup) siteOfAliases).1
      = .ok { answer := .devices [⟨airConditioner, some "cool",
                [⟨⟨0xB0⟩, some "Operation mode setting", "auto"⟩], some 1⟩]
              devices := 1 } := by decide +kernel
  rcases listing_selects 3 modesOfGroup rfl siteOfAliases with ⟨name, target, undefined, -⟩ | ⟨-, rows, ran, lists, -⟩
  · cases target
    rw [defined] at undefined
    cases undefined
  · rw [ran] at listed
    cases listed
    exact ⟨_, ran, lists, rfl, rfl⟩

end DeviceConsole
