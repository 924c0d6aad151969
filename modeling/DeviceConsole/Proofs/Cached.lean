import DeviceConsole.Proofs.Echo
import DeviceConsole.Proofs.Settings.Startup

/-!
# `Proofs.Cached` — what a listing of everything cached shows

A listing of everything cached takes the codes of a cache and looks each of them up in the cache again. The first entry
of a code is found, so the row has an entry for each cached one, with its code, but the value is that of the first entry
of this code. The row tells the cache exactly if the entries of one code are described alike.

A settings file may give a device two entries of one code: no check refuses this, and a discovery takes both into the
cache. This is the only way in. A reading and a writing repeat no code, so the caches of a device whose codes are
distinct in the file stay so, and its rows are right at any time.

* `Backend.OneEach` — a device has no two entries of one code, on the network or in its cache;
* `properties_of_listing` — the row of a device in a listing of everything cached;
* `listing_shows_first` — what such rows are on every site that lines reach.
-/

namespace DeviceConsole

open Device (Endpoint Property)
open Device.PropertyTable (describeValue)
open Router (shownEpcs)

variable {backend after : Backend} {device : Endpoint}

/-! ## Devices with distinct codes -/

/-- A device has no two entries of one code, on the network or in its cache. -/
structure Backend.OneEach (device : Endpoint) (backend : Backend) : Prop where
  onNetwork : ∀ properties, backend.network.get? device = some properties → (properties.map Property.epc).Nodup
  inCache : ∀ cache, backend.known.get? device = some cache → (cache.properties.map Property.epc).Nodup

namespace Backend.OneEach

theorem cacheOf (h : backend.OneEach device) : ((backend.cacheOf device).map Property.epc).Nodup := by
  unfold Backend.cacheOf
  cases found : backend.known.get? device with
  | none => exact List.nodup_nil
  | some cache => exact h.inCache cache found

/-- **A change repeats no code.** -/
theorem change (h : backend.OneEach device) (changed : Change backend after) : after.OneEach device where
  onNetwork properties found := by
    obtain ⟨before, stood⟩ := OrderedMap.contains_iff.mp
      (changed.network_contains.mp (OrderedMap.contains_iff.mpr ⟨properties, found⟩))
    obtain ⟨own, stands, codes⟩ := changed.network_epcs stood
    rw [found] at stands
    cases stands
    rw [codes]
    exact h.onNetwork before stood
  inCache cache found := by
    cases changed with
    | cached fresh =>
      rcases get?_cacheAll found with before | mem
      · exact h.inCache cache before
      · exact h.onNetwork cache.properties (fresh _ mem)
    | @read other onNetwork epcs now reached supported =>
      by_cases same : device = other
      · subst same
        rw [OrderedMap.get?_insert_self] at found
        cases found
        exact Device.nodup_epcs_assignAll _ h.cacheOf
      · rw [OrderedMap.get?_insert_ne same] at found
        exact h.inCache cache found
    | @written other old onNetwork properties now isKnown reached supported =>
      by_cases same : device = other
      · subst same
        rw [OrderedMap.get?_insert_self] at found
        cases found
        exact Device.nodup_epcs_assignAll properties (h.inCache old isKnown)
      · rw [OrderedMap.get?_insert_ne same] at found
        exact h.inCache cache found
    | _ => exact h.inCache cache found

theorem changes (h : backend.OneEach device) (changed : Changes backend after) : after.OneEach device :=
  changed.keeps (fun last before => before.change last) h

/-- A device starts so if its entries in the file are. -/
theorem of_ofEntries {entries : List DeviceEntry} {start : Backend}
    (distinct : ∀ entry ∈ entries, ∀ properties, entry.read = .ok (device, properties) →
      (properties.map Property.epc).Nodup)
    (accepted : Backend.ofEntries entries = .ok start) : start.OneEach device where
  onNetwork properties found := by
    rcases addEntries_source accepted found with nowhere | ⟨entry, mem, read⟩
    · cases nowhere
    · exact distinct entry mem properties read
  inCache cache found := by
    obtain ⟨network, rfl⟩ := addEntries_network accepted
    cases found

end Backend.OneEach

/-! ## Listings of everything cached -/

/-- **A row of everything cached shows the first entry of each cached code.** -/
theorem properties_of_listing {now : Time} {command : DevicesCommand} {outcome : Outcome} {row : DeviceRow}
    (all : command.mode = .all) (listed : (carryOut now (.devices command) backend).1 = .ok outcome)
    (shown : row ∈ outcome.answer.rows) :
    ∃ cache, backend.known.get? row.device = some cache
      ∧ row.properties = (cache.properties.map (firstOf cache.properties)).map
          (propertyRow row.device.eoj.classCode) := by
  rcases listing_cases command backend with ⟨snapshots, ran, cached⟩ | ⟨error, ran⟩
  · cases listed.symm.trans (congrArg Prod.fst ran)
    obtain ⟨snapshot, mem, rfl⟩ := mem_rows_present shown
    obtain ⟨criteria, selected⟩ := cached snapshot mem
    obtain ⟨cache, found, told⟩ := mem_listDevices selected
    have codes : shownEpcs command snapshot = snapshot.properties.map Property.epc := by rw [shownEpcs, all]
    refine ⟨cache, found, ?_⟩
    rw [codes, told, deviceRow_written]
    rfl
  · cases listed.symm.trans (congrArg Prod.fst ran)

/-- Of distinct codes the first entry is the only one. -/
theorem firstOf_eq_self {properties : List Property} {property : Property}
    (distinct : (properties.map Property.epc).Nodup) (mem : property ∈ properties) :
    firstOf properties property = property :=
  List.inj_on_of_nodup_map distinct (firstOf_mem mem).1 mem (firstOf_mem mem).2

/-- **A listing of everything cached shows the first entry of each code.** Settings that pass the check start a site.
On every site that lines reach from it and for every listing of everything cached that succeeds, each row is that of a
known device. It has as many properties as the device has cached, with their codes in the order of the cache, and each
of them shows the value of the first cached entry of its code. So the row tells the cache exactly if the entries of one
code are described alike. This holds at any time for a device whose entries in the file give no code twice. -/
theorem listing_shows_first {settings : Settings} (passed : settings.check = .ok ()) :
    ∃ start, Backend.ofEntries settings.devices = .ok start
      ∧ ∀ backend, Reaches start backend → ∀ now command outcome, command.mode = .all →
        (carryOut now (.devices command) backend).1 = .ok outcome → ∀ row ∈ outcome.answer.rows,
          ∃ cache, backend.known.get? row.device = some cache
            ∧ row.properties.length = cache.properties.length
            ∧ row.properties.map PropertyRow.epc = cache.properties.map Property.epc
            ∧ row.properties = (cache.properties.map (firstOf cache.properties)).map
                (propertyRow row.device.eoj.classCode)
            ∧ (row.properties = cache.properties.map (propertyRow row.device.eoj.classCode)
              ↔ ∀ property ∈ cache.properties,
                describeValue row.device.eoj.classCode (firstOf cache.properties property)
                  = describeValue row.device.eoj.classCode property)
            ∧ ((∀ entry ∈ settings.devices, ∀ properties, entry.read = .ok (row.device, properties) →
                (properties.map Property.epc).Nodup) →
              row.properties = cache.properties.map (propertyRow row.device.eoj.classCode)) := by
  obtain ⟨start, accepted⟩ := starts_of_check passed
  refine ⟨start, accepted, fun backend reached now command outcome all listed row shown => ?_⟩
  obtain ⟨cache, found, properties⟩ := properties_of_listing all listed shown
  have codes : ∀ property ∈ cache.properties, (firstOf cache.properties property).epc = property.epc :=
    fun property mem => (firstOf_mem mem).2
  refine ⟨cache, found, ?_, ?_, properties, ?_, fun distinct => ?_⟩
  · rw [properties, List.length_map, List.length_map]
  · rw [properties, List.map_map, List.map_map]
    exact List.map_congr_left codes
  · have alike := @valueRow_properties_eq_iff row.device _ (firstOf cache.properties) id codes backend backend now now
    rw [List.map_id] at alike
    rw [properties]
    exact alike
  · have distinctCache := ((Backend.OneEach.of_ofEntries distinct accepted).changes reached.changes).inCache cache found
    rw [properties, List.map_congr_left fun property mem => firstOf_eq_self distinctCache mem, List.map_id']

/-- Two air conditioners, the first one with two values for its operation status. -/
def oneRepeating : Settings :=
  { Settings.standard (.ofHome "/home/user") with
    devices := [⟨"10.0.0.1", "0130:1", ["80:30", "80:31"]⟩, ⟨"10.0.0.2", "0130:1", ["80:31", "B0:42"]⟩] }

/-- The second air conditioner. -/
def otherConditioner : Endpoint := ⟨.v4 ⟨10, 0, 0, 2⟩, ⟨⟨0x0130⟩, 1⟩⟩

/-- The site of both. -/
def siteRepeating : Backend :=
  (Backend.empty.withDevice airConditioner [⟨⟨0x80⟩, [0x30]⟩, ⟨⟨0x80⟩, [0x31]⟩]).withDevice otherConditioner
    [⟨⟨0x80⟩, [0x31]⟩, ⟨⟨0xB0⟩, [0x42]⟩]

/-- The listing shows twice that the first air conditioner is on, though its cache also says that it is off. Of the
second one it shows what is cached. -/
theorem listing_shows_first_repeated :
    oneRepeating.check = .ok () ∧ Backend.ofEntries oneRepeating.devices = .ok siteRepeating
    ∧ ∃ found outcome first second cache, Reaches siteRepeating found
      ∧ found.directory.parse "devices -all" = .ok (.devices { mode := .all })
      ∧ (carryOut 2 (.devices { mode := .all }) found).1 = .ok outcome ∧ outcome.answer = .devices [first, second]
      ∧ first.properties = [⟨⟨0x80⟩, some "Operation status", "on"⟩, ⟨⟨0x80⟩, some "Operation status", "on"⟩]
      ∧ found.known.get? first.device = some cache ∧ cache.properties = [⟨⟨0x80⟩, [0x30]⟩, ⟨⟨0x80⟩, [0x31]⟩]
      ∧ first.properties ≠ cache.properties.map (propertyRow first.device.eoj.classCode)
      ∧ ∃ other, found.known.get? second.device = some other
        ∧ second.properties = other.properties.map (propertyRow second.device.eoj.classCode) := by
  have passed : oneRepeating.check = .ok () := rfl
  have accepted : Backend.ofEntries oneRepeating.devices = .ok siteRepeating := rfl
  have reached : Reaches siteRepeating (siteRepeating.lineOn 1 "discover").2 := .line 1 "discover" .refl
  have listed : (carryOut 2 (.devices { mode := .all }) (siteRepeating.lineOn 1 "discover").2).1
      = .ok { answer := .devices [
                ⟨airConditioner, none, [⟨⟨0x80⟩, some "Operation status", "on"⟩,
                  ⟨⟨0x80⟩, some "Operation status", "on"⟩], some 1⟩,
                ⟨otherConditioner, none, [⟨⟨0x80⟩, some "Operation status", "off"⟩,
                  ⟨⟨0xB0⟩, some "Operation mode setting", "cooling"⟩], some 1⟩]
              devices := 2 } := by decide +kernel
  have held : (siteRepeating.lineOn 1 "discover").2.known.get? airConditioner
      = some ⟨[⟨⟨0x80⟩, [0x30]⟩, ⟨⟨0x80⟩, [0x31]⟩], 1⟩ := by decide +kernel
  -- no entry gives the second device a code twice
  have distinct : ∀ entry ∈ oneRepeating.devices, ∀ properties, entry.read = .ok (otherConditioner, properties) →
      (properties.map Property.epc).Nodup := by
    intro entry mem properties read
    rcases List.mem_cons.mp mem with rfl | second
    · cases read
    · cases List.mem_singleton.mp second
      have given : DeviceEntry.read ⟨"10.0.0.2", "0130:1", ["80:31", "B0:42"]⟩
          = .ok (otherConditioner, [⟨⟨0x80⟩, [0x31]⟩, ⟨⟨0xB0⟩, [0x42]⟩]) := rfl
      cases given.symm.trans read
      decide
  obtain ⟨start, made, rows⟩ := listing_shows_first passed
  cases accepted.symm.trans made
  have shown := rows _ reached 2 { mode := .all } _ rfl listed
  obtain ⟨cache, isCached, -, -, -, alike, -⟩ := shown _ List.mem_cons_self
  obtain ⟨other, otherCached, -, -, -, -, faithful⟩ := shown _ (List.mem_cons_of_mem _ List.mem_cons_self)
  cases held.symm.trans isCached
  refine ⟨passed, rfl, _, _, _, _, _, reached, by decide +kernel, listed, rfl, rfl, held, rfl, fun same => ?_,
    other, otherCached, faithful distinct⟩
  exact absurd (alike.mp same _ (List.mem_cons_of_mem _ List.mem_cons_self)) (by decide +kernel)

end DeviceConsole
