import DeviceConsole.Proofs.Backend.Changes
import DeviceConsole.Proofs.Device.Properties

/-!
# `Proofs.Backend.Sound` — the invariant of a site

The four maps of a site lean on one another: what is known is on the network, names stand for what is known, and a
cache holds no code that the network lacks. None of this is checked when a name is used, so it has to hold all the
time.

Each part of the invariant rests on one fact about changes: the network keeps its devices and their codes
(`Change.network_keys`, `Change.network_epcs`), nothing known is forgotten (`Change.known_grows`), and a new
binding comes with its reason (`Change.known_source`, `Change.alias_source`, `Change.group_source`).

* `Backend.Sound` — the invariant;
* `Backend.Sound.changes` — it survives any number of changes.
-/

namespace DeviceConsole

open Device (Endpoint Epc Property assignAll checkAlias checkGroup findEpc? replaceValues)

/-! ## Caching several devices -/

theorem get?_cacheAll {entries : List (Endpoint × KnownDevice)} {known : OrderedMap Endpoint KnownDevice}
    {device : Endpoint} {cache : KnownDevice} (h : (Backend.cacheAll known entries).get? device = some cache) :
    known.get? device = some cache ∨ (device, cache) ∈ entries := by
  induction entries generalizing known with
  | nil => exact .inl h
  | cons entry rest ih =>
    rcases ih h with before | later
    · by_cases same : device = entry.1
      · subst same
        rw [OrderedMap.get?_insert_self] at before
        cases before
        exact .inr List.mem_cons_self
      · rw [OrderedMap.get?_insert_ne same] at before
        exact .inl before
    · exact .inr (List.mem_cons_of_mem _ later)

/-- A device that is not cached again keeps its cache. -/
theorem get?_cacheAll_of_not_mem {entries : List (Endpoint × KnownDevice)} {known : OrderedMap Endpoint KnownDevice}
    {device : Endpoint} (absent : device ∉ entries.map Prod.fst) :
    (Backend.cacheAll known entries).get? device = known.get? device := by
  induction entries generalizing known with
  | nil => rfl
  | cons entry rest ih =>
    obtain ⟨notFirst, notLater⟩ := not_or.mp (mt List.mem_cons.mpr absent)
    exact (ih notLater).trans (OrderedMap.get?_insert_ne notFirst)

/-- A device that is cached once has this cache. -/
theorem get?_cacheAll_of_mem {entries : List (Endpoint × KnownDevice)} {known : OrderedMap Endpoint KnownDevice}
    {device : Endpoint} {cache : KnownDevice} (once : (entries.map Prod.fst).Nodup) (mem : (device, cache) ∈ entries) :
    (Backend.cacheAll known entries).get? device = some cache := by
  induction entries generalizing known with
  | nil => cases mem
  | cons entry rest ih =>
    obtain ⟨new, onceRest⟩ := List.nodup_cons.mp once
    rcases List.mem_cons.mp mem with rfl | later
    · exact (get?_cacheAll_of_not_mem new).trans (OrderedMap.get?_insert_self ..)
    · exact ih onceRest later

theorem contains_cacheAll {entries : List (Endpoint × KnownDevice)} {known : OrderedMap Endpoint KnownDevice}
    {device : Endpoint} (h : known.contains device = true) :
    (Backend.cacheAll known entries).contains device = true := by
  induction entries generalizing known with
  | nil => exact h
  | cons entry rest ih => exact ih ((OrderedMap.contains_insert _ _ _ _).mpr (.inr h))

/-! ## What a change keeps -/

section Change

variable {backend after : Backend} {device : Endpoint} {name : String}

/-- **The network keeps its devices.** -/
theorem Change.network_keys (h : Change backend after) : after.network.keys = backend.network.keys := by
  cases h with
  | written known onNetwork supported =>
    exact OrderedMap.keys_insert_of_contains (OrderedMap.contains_iff.mpr ⟨_, onNetwork⟩)
  | _ => rfl

theorem Change.network_contains (h : Change backend after) :
    after.network.contains device = true ↔ backend.network.contains device = true := by
  rw [← OrderedMap.mem_keys, ← OrderedMap.mem_keys, h.network_keys]

/-- **The devices keep their codes.** -/
theorem Change.network_epcs (h : Change backend after) {onNetwork : List Property}
    (found : backend.network.get? device = some onNetwork) :
    ∃ now, after.network.get? device = some now ∧ now.map Property.epc = onNetwork.map Property.epc := by
  cases h with
  | @written other known old properties now isKnown onOld supported =>
    by_cases same : device = other
    · subst same
      rw [onOld] at found
      cases found
      exact ⟨_, OrderedMap.get?_insert_self .., Device.epcs_replaceValues properties _⟩
    · exact ⟨onNetwork, (OrderedMap.get?_insert_ne same).trans found, rfl⟩
  | _ => exact ⟨onNetwork, found, rfl⟩

/-- **Nothing known is forgotten.** -/
theorem Change.known_grows (h : Change backend after) (known : backend.known.contains device = true) :
    after.known.contains device = true := by
  cases h with
  | cached fresh => exact contains_cacheAll known
  | read onNetwork supported => exact (OrderedMap.contains_insert ..).mpr (.inr known)
  | written isKnown onNetwork supported => exact (OrderedMap.contains_insert ..).mpr (.inr known)
  | _ => exact known

/-- A cached code was cached before, or the network has it. -/
theorem Change.known_source (h : Change backend after) {cache : KnownDevice}
    (found : after.known.get? device = some cache) :
    (∃ old, backend.known.get? device = some old
      ∧ ∀ epc ∈ cache.properties.map Property.epc, epc ∈ old.properties.map Property.epc)
    ∨ ∃ onNetwork, backend.network.get? device = some onNetwork
      ∧ ∀ epc ∈ cache.properties.map Property.epc, epc ∈ onNetwork.map Property.epc
        ∨ ∃ old, backend.known.get? device = some old ∧ epc ∈ old.properties.map Property.epc := by
  have unchanged : backend.known.get? device = some cache →
      ∃ old, backend.known.get? device = some old
        ∧ ∀ epc ∈ cache.properties.map Property.epc, epc ∈ old.properties.map Property.epc :=
    fun same => ⟨cache, same, fun _ mem => mem⟩
  cases h with
  | cached fresh =>
    rcases get?_cacheAll found with same | mem
    · exact .inl (unchanged same)
    · exact .inr ⟨cache.properties, fresh _ mem, fun _ mem => .inl mem⟩
  | @read other onNetwork epcs now onOther supported =>
    by_cases same : device = other
    · subst same
      rw [OrderedMap.get?_insert_self] at found
      cases found
      refine .inr ⟨onNetwork, onOther, fun epc mem => ?_⟩
      -- a code comes from the answer, and so from the network, or from the old cache
      rcases (Device.mem_epcs_assignAll _).mp mem with answered | cached
      · obtain ⟨property, inAnswer, rfl⟩ := List.mem_map.mp answered
        obtain ⟨own, -, found⟩ := List.mem_filterMap.mp inAnswer
        exact .inl (List.mem_map_of_mem (Device.mem_of_findEpc? found).1)
      · right
        unfold Backend.cacheOf at cached
        cases old : backend.known.get? device with
        | none => rw [old] at cached; cases cached
        | some old' => rw [old] at cached; exact ⟨old', rfl, cached⟩
    · rw [OrderedMap.get?_insert_ne same] at found
      exact .inl (unchanged found)
  | @written other known onNetwork properties now isKnown onOther supported =>
    by_cases same : device = other
    · subst same
      rw [OrderedMap.get?_insert_self] at found
      cases found
      refine .inr ⟨onNetwork, onOther, fun epc mem => ?_⟩
      -- every wanted code was found on the network before
      rcases (Device.mem_epcs_assignAll _).mp mem with wanted | cached
      · obtain ⟨property, inWanted, rfl⟩ := List.mem_map.mp wanted
        exact .inl (Device.mem_epcs_iff.mpr (supported property inWanted))
      · exact .inr ⟨known, isKnown, cached⟩
    · rw [OrderedMap.get?_insert_ne same] at found
      exact .inl (unchanged found)
  | _ => exact .inl (unchanged found)

/-- A new alias has a good name and stands for a known device. -/
theorem Change.alias_source (h : Change backend after) (found : after.aliases.get? name = some device) :
    backend.aliases.get? name = some device
    ∨ checkAlias name = .ok () ∧ backend.known.contains device = true := by
  cases h with
  | @bound own bound named known =>
    by_cases same : name = own
    · subst same
      rw [OrderedMap.get?_insert_self] at found
      cases found
      exact .inr ⟨named, known⟩
    · rw [OrderedMap.get?_insert_ne same] at found
      exact .inl found
  | unbound own =>
    rw [OrderedMap.get?_erase] at found
    split at found
    · cases found
    · exact .inl found
  | _ => exact .inl found

/-- A group is as it was, has lost some of its members, or has got known ones and a good name. -/
theorem Change.group_source (h : Change backend after) {members : List Endpoint}
    (found : after.groups.get? name = some members) :
    (∃ old, backend.groups.get? name = some old ∧ members.Sublist old ∧ (old ≠ [] → members ≠ []))
    ∨ ∃ devices, checkGroup name = .ok () ∧ devices ≠ []
      ∧ (∀ device ∈ devices, backend.known.contains device = true)
      ∧ members = addAllNew ((backend.groups.get? name).getD []) devices := by
  have unchanged : backend.groups.get? name = some members →
      ∃ old, backend.groups.get? name = some old ∧ members.Sublist old ∧ (old ≠ [] → members ≠ []) :=
    fun same => ⟨members, same, List.Sublist.refl _, id⟩
  cases h with
  | @grouped own devices named some_device known =>
    by_cases same : name = own
    · subst same
      rw [OrderedMap.get?_insert_self] at found
      cases found
      exact .inr ⟨devices, named, some_device, known, rfl⟩
    · rw [OrderedMap.get?_insert_ne same] at found
      exact .inl (unchanged found)
  | @shrunk own old left before sublist some_left =>
    by_cases same : name = own
    · subst same
      rw [OrderedMap.get?_insert_self] at found
      cases found
      exact .inl ⟨old, before, sublist, fun _ => some_left⟩
    · rw [OrderedMap.get?_insert_ne same] at found
      exact .inl (unchanged found)
  | ungrouped own =>
    rw [OrderedMap.get?_erase] at found
    split at found
    · cases found
    · exact .inl (unchanged found)
  | _ => exact .inl (unchanged found)

end Change

/-! ## The invariant -/

/-- **A sound site** with the given devices on its network: what is known is on the network, aliases and groups
have good names and stand for what is known, groups have members and none of them twice, and what is cached is a
property of the device. -/
structure Backend.Sound (devices : List Endpoint) (backend : Backend) : Prop where
  network : backend.network.keys = devices
  known : ∀ device, backend.known.contains device = true → backend.network.contains device = true
  aliases : ∀ name device, backend.aliases.get? name = some device →
    backend.known.contains device = true ∧ checkAlias name = .ok ()
  groups : ∀ name members, backend.groups.get? name = some members →
    members ≠ [] ∧ members.Nodup ∧ (∀ member ∈ members, backend.known.contains member = true)
      ∧ checkGroup name = .ok ()
  cached : ∀ device cache onNetwork, backend.known.get? device = some cache →
    backend.network.get? device = some onNetwork →
    ∀ epc ∈ cache.properties.map Property.epc, epc ∈ onNetwork.map Property.epc

namespace Backend.Sound

variable {devices : List Endpoint} {backend after : Backend}

theorem change (h : backend.Sound devices) (changed : Change backend after) : after.Sound devices where
  network := changed.network_keys.trans h.network
  known := by
    intro device isKnown
    obtain ⟨cache, found⟩ := OrderedMap.contains_iff.mp isKnown
    rw [changed.network_contains]
    rcases changed.known_source found with ⟨old, before, -⟩ | ⟨onNetwork, reached, -⟩
    · exact h.known device (OrderedMap.contains_iff.mpr ⟨old, before⟩)
    · exact OrderedMap.contains_iff.mpr ⟨onNetwork, reached⟩
  aliases := by
    intro name device found
    rcases changed.alias_source found with before | ⟨named, isKnown⟩
    · obtain ⟨isKnown, named⟩ := h.aliases name device before
      exact ⟨changed.known_grows isKnown, named⟩
    · exact ⟨changed.known_grows isKnown, named⟩
  groups := by
    intro name members found
    rcases changed.group_source found with
      ⟨old, before, sublist, nonempty⟩ | ⟨added, named, some_added, known, rfl⟩
    · obtain ⟨some_old, nodup, known, named⟩ := h.groups name old before
      refine ⟨nonempty some_old, nodup.sublist sublist, fun member mem => ?_, named⟩
      exact changed.known_grows (known member (sublist.subset mem))
    -- a group that does not exist yet counts as empty
    · have old : ((backend.groups.get? name).getD []).Nodup
          ∧ ∀ member ∈ (backend.groups.get? name).getD [], backend.known.contains member = true := by
        cases before : backend.groups.get? name with
        | none => simp
        | some members =>
          obtain ⟨-, nodup, known, -⟩ := h.groups name members before
          exact ⟨nodup, known⟩
      refine ⟨?_, nodup_addAllNew old.1, fun member mem => ?_, named⟩
      · obtain ⟨device, mem⟩ := List.exists_mem_of_ne_nil _ some_added
        exact List.ne_nil_of_mem (mem_addAllNew.mpr (.inr mem))
      · rcases mem_addAllNew.mp mem with mem | mem
        · exact changed.known_grows (old.2 member mem)
        · exact changed.known_grows (known member mem)
  cached := by
    intro device cache onNetwork found reached epc mem
    -- the network may hold other values now, but no other codes
    have codes : ∀ before, backend.network.get? device = some before →
        onNetwork.map Property.epc = before.map Property.epc := by
      intro before reachedBefore
      obtain ⟨now, reachedNow, same⟩ := changed.network_epcs reachedBefore
      rw [reached] at reachedNow
      cases reachedNow
      exact same
    have oldCodes : ∀ old, backend.known.get? device = some old →
        ∀ epc ∈ old.properties.map Property.epc, epc ∈ onNetwork.map Property.epc := by
      intro old before epc mem
      have isKnown := h.known device (OrderedMap.contains_iff.mpr ⟨old, before⟩)
      obtain ⟨own, reachedBefore⟩ := OrderedMap.contains_iff.mp isKnown
      rw [codes own reachedBefore]
      exact h.cached device old own before reachedBefore epc mem
    rcases changed.known_source found with ⟨old, before, inOld⟩ | ⟨own, reachedBefore, source⟩
    · exact oldCodes old before epc (inOld epc mem)
    · rcases source epc mem with inNetwork | ⟨old, before, inOld⟩
      · rw [codes own reachedBefore]
        exact inNetwork
      · exact oldCodes old before epc inOld

/-- **The invariant survives any number of changes.** -/
theorem changes (h : backend.Sound devices) (changed : Changes backend after) : after.Sound devices :=
  changed.keeps (fun last before => before.change last) h

/-- A known device answers. -/
theorem answers (h : backend.Sound devices) {device : Endpoint} (isKnown : backend.known.contains device = true) :
    backend.network.get? device ≠ none := by
  obtain ⟨onNetwork, reached⟩ := OrderedMap.contains_iff.mp (h.known device isKnown)
  rw [reached]
  simp

end Backend.Sound

/-- Nothing known is forgotten over any number of changes. -/
theorem Changes.known_grows {backend after : Backend} (changed : Changes backend after) {device : Endpoint}
    (isKnown : backend.known.contains device = true) : after.known.contains device = true :=
  changed.keeps (fun last known => last.known_grows known) isKnown

end DeviceConsole
