import DeviceConsole.Proofs.Selection

/-!
# `Proofs.LastWrite` — a reading after a writing

A writing goes over the wanted properties one by one, on the network and in the cache, and either list may hold a code
several times. What a reading finds afterwards is the last wanted value of each code, and of a code that was not
wanted the value from before. A writing that is repeated finds its last values there, so it changes none: the values
in between are written again, and written over again.

This holds on any site, whether lines reach it or not; the cache may be partial and may differ from the network.

* `LastOfCode`, `ReadsAfter` — what is read of a code after a writing;
* `setProperties_ok`, `setProperties_leaves` — a writing of supported codes, and what it leaves: `AfterWriting`;
* `AfterWriting.again` — the same writing again, which leaves a site with the `SameValues`;
* `AfterWriting.reads` — a reading of supported codes;
* `reads_last_written` — **the last write wins**.
-/

namespace DeviceConsole

open Device (Endpoint Epc Property Settled assignAll assignAll_of_settled findEpc? findEpc?_replaceValues
  forall₂_answer isSome_findEpc?_replaceValues mem_epcs_iff mem_of_findEpc? replaceValues replaceValues_of_settled
  settled_assignAll settled_replaceValues)

/-! ## Last values -/

/-- The property is the last one of its code in the list. -/
def LastOfCode (property : Property) (properties : List Property) : Prop :=
  ∃ front behind, properties = front ++ property :: behind ∧ ∀ other ∈ behind, other.epc ≠ property.epc

theorem lastOfCode_iff {property : Property} {properties : List Property} :
    LastOfCode property properties ↔ FirstOfCode property properties.reverse := by
  constructor
  · rintro ⟨front, behind, rfl, others⟩
    exact ⟨behind.reverse, front.reverse, by simp, by simpa using others⟩
  · rintro ⟨front, behind, parts, others⟩
    exact ⟨behind.reverse, front.reverse, by simpa using congrArg List.reverse parts, by simpa using others⟩

/-- What is found from behind is the last one of its code. -/
theorem findEpc?_reverse_eq_some_iff {epc : Epc} {property : Property} {properties : List Property} :
    findEpc? epc properties.reverse = some property ↔ property.epc = epc ∧ LastOfCode property properties := by
  rw [findEpc?_eq_some_iff, lastOfCode_iff]

/-- What is read of a code after a writing to a device that held these properties: the last wanted value of the code,
or the first one from before if the code was not wanted. -/
inductive ReadsAfter (wanted held : List Property) (epc : Epc) (property : Property) : Prop
  | written : property.epc = epc → LastOfCode property wanted → ReadsAfter wanted held epc property
  | kept : (∀ other ∈ wanted, other.epc ≠ epc) → property.epc = epc → FirstOfCode property held →
      ReadsAfter wanted held epc property

/-- **What is found after replacements.** -/
theorem readsAfter_of_findEpc? {wanted held : List Property} {epc : Epc} {property : Property}
    (found : findEpc? epc (replaceValues wanted held) = some property) : ReadsAfter wanted held epc property := by
  rw [findEpc?_replaceValues] at found
  obtain ⟨old, before, now⟩ := Option.map_eq_some_iff.mp found
  cases last : findEpc? epc wanted.reverse with
  | some written =>
    rw [last] at now
    obtain rfl : written = property := now
    obtain ⟨code, isLast⟩ := findEpc?_reverse_eq_some_iff.mp last
    exact .written code isLast
  | none =>
    rw [last] at now
    obtain rfl : old = property := now
    obtain ⟨code, isFirst⟩ := findEpc?_eq_some_iff.mp before
    refine .kept (fun other mem same => ?_) code isFirst
    have absent := List.find?_eq_none.mp last other (List.mem_reverse.mpr mem)
    simp [same] at absent

/-! ## Writings -/

section Writing

variable {backend : Backend} {device : Endpoint} {cache : KnownDevice} {onNetwork properties : List Property}

/-- A writing of supported codes to a known device gives it the values, on the network and in its cache. -/
theorem setProperties_ok (now : Time) (known : backend.known.get? device = some cache)
    (reached : backend.network.get? device = some onNetwork)
    (supported : ∀ wanted ∈ properties, (findEpc? wanted.epc onNetwork).isSome = true) :
    runOn (Backend.setProperties now device properties) backend
      = (.ok ⟨device, backend.aliasOf? device, properties, now⟩,
        { backend with
          network := backend.network.insert device (replaceValues properties onNetwork)
          known := backend.known.insert device ⟨assignAll properties cache.properties, now⟩ }) := by
  obtain ⟨result, after, ran, outcome⟩ := setProperties_outcome backend now device properties
  rw [ran]
  cases outcome with
  | unknown unknown =>
    rw [known] at unknown
    cases unknown
  | silent _ gone =>
    rw [reached] at gone
    cases gone
  | lacking _ same mem lacks =>
    rw [reached, Option.some.injEq] at same
    subst same
    have found := supported _ mem
    rw [lacks] at found
    cases found
  | written sameKnown same =>
    rw [reached, Option.some.injEq] at same
    rw [known, Option.some.injEq] at sameKnown
    subst same sameKnown
    rfl

/-- The sites hold the same values, on the network and in the caches; only times may differ. -/
structure SameValues (before after : Backend) : Prop where
  network : after.network = before.network
  cached : ∀ device, (after.known.get? device).map KnownDevice.properties
    = (before.known.get? device).map KnownDevice.properties
  aliases : after.aliases = before.aliases
  groups : after.groups = before.groups
  debug : after.debug = before.debug

/-- The last wanted values are on the device, which held other ones before, and in its cache. -/
structure Backend.AfterWriting (backend : Backend) (device : Endpoint) (wanted held : List Property) : Prop where
  supported : ∀ property ∈ wanted, property.epc ∈ held.map Property.epc
  onNetwork : backend.network.get? device = some (replaceValues wanted held)
  cached : ∃ cache, backend.known.get? device = some cache ∧ Settled wanted cache.properties

/-- **A writing of supported codes succeeds** and leaves its last values. -/
theorem setProperties_leaves (now : Time) (known : backend.known.get? device = some cache)
    (reached : backend.network.get? device = some onNetwork)
    (supported : ∀ wanted ∈ properties, wanted.epc ∈ onNetwork.map Property.epc) :
    ∃ written, runOn (Backend.setProperties now device properties) backend
        = (.ok ⟨device, backend.aliasOf? device, properties, now⟩, written)
      ∧ written.AfterWriting device properties onNetwork ∧ ConfinedTo [device] backend written := by
  have ran := setProperties_ok now known reached fun wanted mem => mem_epcs_iff.mp (supported wanted mem)
  refine ⟨_, ran, ⟨supported, OrderedMap.get?_insert_self .., _, OrderedMap.get?_insert_self .., ?_⟩,
    (setProperties_written ran).1.confined⟩
  exact settled_assignAll properties cache.properties

namespace Backend.AfterWriting

variable {held : List Property} (h : backend.AfterWriting device properties held)
include h

theorem settled : Settled properties (replaceValues properties held) :=
  settled_replaceValues fun wanted mem => mem_epcs_iff.mp (h.supported wanted mem)

/-- **To repeat the writing changes no value.** -/
theorem again (now : Time) :
    ∃ after, runOn (Backend.setProperties now device properties) backend
        = (.ok ⟨device, backend.aliasOf? device, properties, now⟩, after) ∧ SameValues backend after := by
  obtain ⟨cache, known, inCache⟩ := h.cached
  have supported : ∀ wanted ∈ properties, (findEpc? wanted.epc (replaceValues properties held)).isSome = true :=
    fun wanted mem => isSome_findEpc?_replaceValues properties (h.supported wanted mem)
  have ran := setProperties_ok now known h.onNetwork supported
  refine ⟨_, ran, ?_, fun other => ?_, rfl, rfl, rfl⟩
  · rw [replaceValues_of_settled h.settled]
    exact OrderedMap.insert_of_get? h.onNetwork
  · rw [assignAll_of_settled inCache]
    by_cases same : other = device
    · subst same
      rw [OrderedMap.get?_insert_self, known]
      rfl
    · rw [OrderedMap.get?_insert_ne same]

/-- **A reading of supported codes** answers the last wanted values, and the old ones of codes that were not wanted. -/
theorem reads (now : Time) (skipValidation : Bool) {epcs : List Epc}
    (supported : ∀ epc ∈ epcs, epc ∈ held.map Property.epc) :
    ∃ answered read, runOn (Backend.getProperties now device epcs skipValidation) backend
        = (.ok ⟨device, backend.aliasOf? device, answered, now⟩, read)
      ∧ List.Forall₂ (ReadsAfter properties held) epcs answered
      ∧ (∀ property ∈ answered, (read.holding device).cached? property.epc = some property)
      ∧ ConfinedTo [device] backend read ∧ read.network = backend.network
      ∧ read.AfterWriting device properties held := by
  obtain ⟨cache, known, inCache⟩ := h.cached
  have allowed : (skipValidation || backend.known.contains device) = true := by
    rw [OrderedMap.contains_iff.mpr ⟨cache, known⟩, Bool.or_true]
  have present : ∀ epc ∈ epcs, (findEpc? epc (replaceValues properties held)).isSome = true :=
    fun epc asked => isSome_findEpc?_replaceValues properties (supported epc asked)
  have ran := getProperties_ok now allowed h.onNetwork present
  have reached := (getProperties_read ran).1
  refine ⟨_, _, ran, ?_, ?_, reached.confined, rfl, h.supported, h.onNetwork, _, OrderedMap.get?_insert_self .., ?_⟩
  · exact (forall₂_answer present).imp fun epc property found => readsAfter_of_findEpc? found
  · intro property mem
    obtain ⟨epc, asked, found⟩ := List.mem_filterMap.mp mem
    obtain ⟨own, onDevice, inCache⟩ := (reached.reached device (List.mem_singleton_self device)).answered epc asked
    rw [Holding.value?, Backend.holding, h.onNetwork] at onDevice
    obtain rfl : property = own := Option.some.inj (found.symm.trans onDevice)
    rwa [(mem_of_findEpc? found).2]
  · have inOld : Settled properties (backend.cacheOf device) := by
      rw [Backend.cacheOf, known]
      exact inCache
    exact inOld.answered h.settled epcs

end Backend.AfterWriting

end Writing

/-! ## A reading after a writing -/

/-- **The last write wins.** On any site, a writing of supported codes to a known device of the network succeeds and
leaves everything else as it is, and its last values are in the cache. A reading of supported codes after it, at any
time, answers for each code in order the last wanted value, or the value from before if the code was not wanted, and
then the cache holds the answered values. To repeat the writing, right away or after the reading, changes no value. A
writing of which a code is not supported fails at such a code and changes nothing. -/
theorem reads_last_written (backend : Backend) {device : Endpoint} {onNetwork : List Property}
    (known : backend.known.contains device = true) (reached : backend.network.get? device = some onNetwork)
    (now : Time) (properties : List Property) :
    ((∀ wanted ∈ properties, wanted.epc ∈ onNetwork.map Property.epc) →
      ∃ written, runOn (Backend.setProperties now device properties) backend
          = (.ok ⟨device, backend.aliasOf? device, properties, now⟩, written)
        ∧ ConfinedTo [device] backend written
        ∧ (∀ wanted, LastOfCode wanted properties → (written.holding device).cached? wanted.epc = some wanted)
        ∧ (∀ later, ∃ again, runOn (Backend.setProperties later device properties) written
            = (.ok ⟨device, backend.aliasOf? device, properties, later⟩, again) ∧ SameValues written again)
        ∧ ∀ later epcs skipValidation, (∀ epc ∈ epcs, epc ∈ onNetwork.map Property.epc) →
          ∃ answered read, runOn (Backend.getProperties later device epcs skipValidation) written
              = (.ok ⟨device, backend.aliasOf? device, answered, later⟩, read)
            ∧ List.Forall₂ (ReadsAfter properties onNetwork) epcs answered
            ∧ (∀ property ∈ answered, (read.holding device).cached? property.epc = some property)
            ∧ ConfinedTo [device] written read ∧ read.network = written.network
            ∧ ∀ last, ∃ again, runOn (Backend.setProperties last device properties) read
              = (.ok ⟨device, backend.aliasOf? device, properties, last⟩, again) ∧ SameValues read again)
    ∧ ((∃ wanted ∈ properties, wanted.epc ∉ onNetwork.map Property.epc) →
      ∃ wanted ∈ properties, wanted.epc ∉ onNetwork.map Property.epc
        ∧ runOn (Backend.setProperties now device properties) backend
          = (.error (.execution (.failed (.cannotSet device wanted.epc))), backend)) := by
  obtain ⟨cache, isKnown⟩ := OrderedMap.contains_iff.mp known
  constructor
  · intro supported
    obtain ⟨written, ran, left, confined⟩ := setProperties_leaves now isKnown reached supported
    have named := aliasOf?_congr confined.aliases device
    refine ⟨written, ran, confined, ?_, ?_, ?_⟩
    · intro wanted isLast
      obtain ⟨own, found, settled⟩ := left.cached
      rw [Holding.cached?, Backend.holding, found]
      exact settled _ _ (findEpc?_reverse_eq_some_iff.mpr ⟨rfl, isLast⟩)
    · intro later
      rw [← named]
      exact left.again later
    · intro later epcs skipValidation asked
      obtain ⟨answered, read, ranRead, told, cached, confinedRead, network, stillLeft⟩ :=
        left.reads later skipValidation asked
      have namedRead := aliasOf?_congr confinedRead.aliases device
      refine ⟨answered, read, named ▸ ranRead, told, cached, confinedRead, network, fun last => ?_⟩
      rw [← named, ← namedRead]
      exact stillLeft.again last
  · rintro ⟨unsupported, mem, lacks⟩
    obtain ⟨result, after, ran, outcome⟩ := setProperties_outcome backend now device properties
    rw [ran]
    cases outcome with
    | unknown unknown =>
      rw [isKnown] at unknown
      cases unknown
    | silent _ gone =>
      rw [reached] at gone
      cases gone
    | @lacking own wanted _ same isWanted missing =>
      rw [reached, Option.some.injEq] at same
      subst same
      refine ⟨wanted, isWanted, ?_, rfl⟩
      rw [mem_epcs_iff, missing]
      exact Bool.false_ne_true
    | written _ same supported =>
      rw [reached, Option.some.injEq] at same
      subst same
      exact absurd (mem_epcs_iff.mpr (supported unsupported mem)) lacks

/-- The site of an air conditioner with two entries of one code, of which only this code is cached. -/
def siteOfPartial : Backend :=
  { siteOfRepeats with known := OrderedMap.empty.insert airConditioner ⟨[⟨⟨0x80⟩, [0x30]⟩], 1⟩ }

/-- A writing that names one code twice, and another one in between. -/
def onCoolOff : List Property := [⟨⟨0x80⟩, [0x30]⟩, ⟨⟨0xB0⟩, [0x41]⟩, ⟨⟨0x80⟩, [0x31]⟩]

/-- After the writing a reading answers both codes as they were written last, also where a code is asked twice. Only
the first entry of the repeated code has changed, and the other code is cached now. A writing of a code that the air
conditioner lacks fails. -/
theorem reads_last_written_repeated :
    siteOfPartial.known.contains airConditioner = true
    ∧ siteOfPartial.network.get? airConditioner
      = some [⟨⟨0x80⟩, [0x30]⟩, ⟨⟨0x80⟩, [0x32]⟩, ⟨⟨0xB0⟩, [0x42]⟩]
    ∧ (∃ written read, runOn (Backend.setProperties 2 airConditioner onCoolOff) siteOfPartial
          = (.ok ⟨airConditioner, none, onCoolOff, 2⟩, written)
        ∧ written.network.get? airConditioner = some [⟨⟨0x80⟩, [0x31]⟩, ⟨⟨0x80⟩, [0x32]⟩, ⟨⟨0xB0⟩, [0x41]⟩]
        ∧ runOn (Backend.getProperties 3 airConditioner [⟨0xB0⟩, ⟨0x80⟩, ⟨0xB0⟩] false) written
          = (.ok ⟨airConditioner, none, [⟨⟨0xB0⟩, [0x41]⟩, ⟨⟨0x80⟩, [0x31]⟩, ⟨⟨0xB0⟩, [0x41]⟩], 3⟩, read)
        ∧ (read.holding airConditioner).cached? ⟨0xB0⟩ = some ⟨⟨0xB0⟩, [0x41]⟩)
    ∧ runOn (Backend.setProperties 2 airConditioner [⟨⟨0xC0⟩, [0x01]⟩]) siteOfPartial
      = (.error (.execution (.failed (.cannotSet airConditioner ⟨0xC0⟩))), siteOfPartial) := by
  have known : siteOfPartial.known.contains airConditioner = true := by decide +kernel
  have reached : siteOfPartial.network.get? airConditioner
      = some [⟨⟨0x80⟩, [0x30]⟩, ⟨⟨0x80⟩, [0x32]⟩, ⟨⟨0xB0⟩, [0x42]⟩] := by decide +kernel
  obtain ⟨written, ran, -, -, -, reads⟩ :=
    (reads_last_written siteOfPartial known reached 2 onCoolOff).1 (by decide +kernel)
  obtain ⟨answered, read, ranRead, -, cached, -⟩ := reads 3 [⟨0xB0⟩, ⟨0x80⟩, ⟨0xB0⟩] false (by decide +kernel)
  obtain rfl : (runOn (Backend.setProperties 2 airConditioner onCoolOff) siteOfPartial).2 = written := by rw [ran]
  have told : (runOn (Backend.getProperties 3 airConditioner [⟨0xB0⟩, ⟨0x80⟩, ⟨0xB0⟩] false)
        (runOn (Backend.setProperties 2 airConditioner onCoolOff) siteOfPartial).2).1
      = .ok ⟨airConditioner, none, [⟨⟨0xB0⟩, [0x41]⟩, ⟨⟨0x80⟩, [0x31]⟩, ⟨⟨0xB0⟩, [0x41]⟩], 3⟩ := by decide +kernel
  rw [ranRead] at told
  cases told
  refine ⟨known, reached, ⟨_, read, ran, by decide +kernel, ranRead, cached _ List.mem_cons_self⟩, ?_⟩
  obtain ⟨wanted, mem, -, failed⟩ :=
    (reads_last_written siteOfPartial known reached 2 [⟨⟨0xC0⟩, [0x01]⟩]).2 (by decide +kernel)
  rwa [List.mem_singleton.mp mem] at failed

end DeviceConsole
