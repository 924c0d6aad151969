import DeviceConsole.Proofs.Command.Shown
import DeviceConsole.Proofs.Members

/-!
# `Proofs.Echo` — what a writing shows and what it leaves

A writing answers with the request: of each code it shows the first wanted value. On the device the values are set in
order, so the last one stays. The two are the same for a code that is wanted once, and for a repeated code only if
its first and its last value are described alike.

* `firstOf`, `lastOf` — the two values of a code that is wanted several times;
* `Resolved.again` — a writing does not change what its target stands for;
* `writing_runs` — a writing that succeeds, device by device;
* `reading_runs` — a reading of devices that are known to have the codes;
* `writing_shows_first` — the rows of a writing and the rows of a reading right after it.
-/

namespace DeviceConsole

open Device (ClassCode Endpoint Epc Property findEpc? findEpc?_answered mem_epcs_iff mem_of_findEpc?)
open Device.PropertyTable (describeValue epcName?)
open Router (deviceRow)

/-! ## Repeated codes -/

section Repeated

variable {properties : List Property} {wanted : Property}

/-- The first of the properties with the code of the wanted one. -/
def firstOf (properties : List Property) (wanted : Property) : Property :=
  (findEpc? wanted.epc properties).getD wanted

/-- The last of the properties with the code of the wanted one. -/
def lastOf (properties : List Property) (wanted : Property) : Property := firstOf properties.reverse wanted

theorem findEpc?_firstOf (mem : wanted ∈ properties) :
    findEpc? wanted.epc properties = some (firstOf properties wanted) := by
  obtain ⟨first, found⟩ := Option.isSome_iff_exists.mp (mem_epcs_iff.mp (List.mem_map_of_mem mem))
  rw [firstOf, found]
  rfl

theorem findEpc?_lastOf (mem : wanted ∈ properties) :
    findEpc? wanted.epc properties.reverse = some (lastOf properties wanted) :=
  findEpc?_firstOf (List.mem_reverse.mpr mem)

theorem firstOf_mem (mem : wanted ∈ properties) :
    firstOf properties wanted ∈ properties ∧ (firstOf properties wanted).epc = wanted.epc :=
  mem_of_findEpc? (findEpc?_firstOf mem)

theorem lastOf_mem (mem : wanted ∈ properties) :
    lastOf properties wanted ∈ properties ∧ (lastOf properties wanted).epc = wanted.epc := by
  obtain ⟨inReverse, code⟩ := firstOf_mem (List.mem_reverse.mpr mem)
  exact ⟨List.mem_reverse.mp inReverse, code⟩

/-- Of a code that is wanted once the first value is the last one. -/
theorem firstOf_eq_lastOf (distinct : (properties.map Property.epc).Nodup) (mem : wanted ∈ properties) :
    firstOf properties wanted = lastOf properties wanted := by
  obtain ⟨inFront, code⟩ := firstOf_mem mem
  obtain ⟨inBack, sameCode⟩ := lastOf_mem mem
  exact List.inj_on_of_nodup_map distinct inFront inBack (code.trans sameCode.symm)

end Repeated

/-! ## Rows of given values -/

section Rows

variable {backend : Backend} {device : Endpoint}

/-- The row of a device that shows the values. -/
def Backend.valueRow (backend : Backend) (now : Time) (device : Endpoint) (values : List Property) : DeviceRow :=
  ⟨device, backend.aliasOf? device, values.map (propertyRow device.eoj.classCode), some now⟩

/-- The values of all the codes, where each of them is found. -/
theorem filterMap_epcs {properties held : List Property} {value : Property → Property}
    (found : ∀ wanted ∈ properties, findEpc? wanted.epc held = some (value wanted)) :
    (properties.map Property.epc).filterMap (fun epc => findEpc? epc held) = properties.map value := by
  rw [List.filterMap_map, ← List.filterMap_eq_map]
  exact List.filterMap_congr found

/-- The row of what was wanted shows the first values. -/
theorem deviceRow_written (backend : Backend) (now : Time) (device : Endpoint) (properties : List Property) :
    deviceRow ⟨device, backend.aliasOf? device, properties, now⟩ (properties.map Property.epc)
      = backend.valueRow now device (properties.map (firstOf properties)) := by
  unfold deviceRow Backend.valueRow
  rw [filterMap_epcs fun wanted => findEpc?_firstOf]
  rfl

/-- The row of an answer shows the values that were found. -/
theorem deviceRow_answered {properties held : List Property} {value : Property → Property}
    (found : ∀ wanted ∈ properties, findEpc? wanted.epc held = some (value wanted)) (backend : Backend) (now : Time)
    (device : Endpoint) :
    deviceRow ⟨device, backend.aliasOf? device,
        (properties.map Property.epc).filterMap fun epc => findEpc? epc held, now⟩ (properties.map Property.epc)
      = backend.valueRow now device (properties.map value) := by
  have again : ∀ wanted ∈ properties,
      findEpc? wanted.epc ((properties.map Property.epc).filterMap fun epc => findEpc? epc held)
        = some (value wanted) := by
    intro wanted mem
    rw [findEpc?_answered (List.mem_map_of_mem mem), found wanted mem]
  unfold deviceRow Backend.valueRow
  rw [filterMap_epcs again]
  rfl

/-- **The shown values are the same exactly if they are described alike.** -/
theorem valueRow_properties_eq_iff {properties : List Property} {value other : Property → Property}
    (codes : ∀ wanted ∈ properties, (value wanted).epc = (other wanted).epc) (before after : Backend)
    (now later : Time) :
    (before.valueRow now device (properties.map value)).properties
        = (after.valueRow later device (properties.map other)).properties
      ↔ ∀ wanted ∈ properties,
        describeValue device.eoj.classCode (value wanted) = describeValue device.eoj.classCode (other wanted) := by
  show (properties.map value).map _ = (properties.map other).map _ ↔ _
  rw [List.map_map, List.map_map, List.map_inj_left]
  refine forall_congr' fun wanted => forall_congr' fun mem => ?_
  -- a row has the code and its name too, and these are the same
  show propertyRow _ (value wanted) = propertyRow _ (other wanted) ↔ _
  rw [propertyRow, propertyRow, codes wanted mem]
  simp

end Rows

/-! ## A writing, device by device -/

section Writing

variable {backend after : Backend} {devices : List Endpoint} {target : Target}

/-- A target stands for the same devices as long as groups and known devices stay. -/
theorem Resolved.again (h : Resolved backend false target devices) (groups : after.groups = backend.groups)
    (keys : after.known.keys = backend.known.keys) (allowUnknown : Bool) :
    runOn (Router.resolve target allowUnknown) after = (.ok devices, after) := by
  cases h with
  | members bound =>
    show runOn (Router.members _) after = _
    rw [runOn_members, groups, bound]
  | one only =>
    refine runOn_resolve_one ?_ allowUnknown
    rw [← only]
    unfold Backend.findDevices
    rw [keys]
  | unknown _ _ never => cases never

/-- The devices of a writing are known, and none of them is there twice. -/
theorem Resolved.known_nodup {onNetwork : List Endpoint} (sound : backend.Sound onNetwork)
    (h : Resolved backend false target devices) :
    (∀ device ∈ devices, backend.known.contains device = true) ∧ devices.Nodup := by
  have known := (known_of_resolved sound h).resolve_right fun unguarded => Bool.false_ne_true unguarded.1
  refine ⟨known, ?_⟩
  cases h with
  | members bound => exact (sound.groups _ _ bound).2.1
  | one => exact List.nodup_singleton _
  | unknown => exact List.nodup_singleton _

/-- A writing that succeeds answers with the request, and makes no device known. -/
theorem setProperties_answer {now : Time} {device : Endpoint} {properties : List Property} {snapshot : Snapshot}
    (ran : runOn (Backend.setProperties now device properties) backend = (.ok snapshot, after)) :
    snapshot = ⟨device, backend.aliasOf? device, properties, now⟩ ∧ after.aliases = backend.aliases
      ∧ after.known.keys = backend.known.keys := by
  obtain ⟨result, last, same, outcome⟩ := setProperties_outcome backend now device properties
  rw [ran] at same
  cases same
  cases outcome with
  | written known =>
    exact ⟨rfl, rfl, OrderedMap.keys_insert_of_contains (OrderedMap.contains_iff.mpr ⟨_, known⟩)⟩

theorem Runs.answers {now : Time} {properties : List Property} {snapshots : List Snapshot}
    (h : Runs (fun device => Backend.setProperties now device properties) devices backend snapshots after) :
    snapshots = devices.map (fun device => ⟨device, backend.aliasOf? device, properties, now⟩)
      ∧ after.known.keys = backend.known.keys := by
  induction h with
  | nil => exact ⟨rfl, rfl⟩
  | cons ran _ ih =>
    obtain ⟨rfl, aliases, keys⟩ := setProperties_answer ran
    obtain ⟨rfl, keysRest⟩ := ih
    refine ⟨?_, keysRest.trans keys⟩
    rw [List.map_cons]
    exact congrArg _ (List.map_congr_left fun device _ => by rw [aliasOf?_congr aliases])

/-- **A writing that succeeds**: it reached all the devices of its target and shows the first values. -/
theorem writing_runs {onNetwork : List Endpoint} (sound : backend.Sound onNetwork) {now : Time}
    {properties : List Property} {outcome : Outcome}
    (ran : runOn (Router.writing now ⟨target, properties⟩) backend = (.ok outcome, after)) :
    ∃ devices, Resolved backend false target devices
      ∧ EachOf (Holding.Written properties) devices backend after ∧ after.known.keys = backend.known.keys
      ∧ outcome.answer = .devices (devices.map fun device =>
          backend.valueRow now device (properties.map (firstOf properties))) := by
  obtain ⟨devices, snapshots, -, resolved, runs, rfl⟩ := runs_of_ok ran
  obtain ⟨told, keys⟩ := runs.answers
  have reached : EachOf (Holding.Written properties) devices backend after :=
    runs.eachOf (resolved.known_nodup sound).2 fun device _ between value next _ ran =>
      (setProperties_written ran).1
  refine ⟨devices, resolved, reached, keys, ?_⟩
  show Answer.devices (snapshots.map _) = _
  rw [told, List.map_map]
  exact congrArg Answer.devices (List.map_congr_left fun device _ => deviceRow_written ..)

/-- **A reading of known devices that have all the codes** answers with the values that are found. It changes caches
only, so each device is found as it was at the beginning. -/
theorem reading_runs {properties : List Property} {value : Property → Property}
    (known : ∀ device ∈ devices, backend.known.contains device = true)
    (found : ∀ device ∈ devices, ∀ wanted ∈ properties,
      (backend.holding device).value? wanted.epc = some (value wanted))
    (answers : ∀ device ∈ devices, backend.network.get? device ≠ none) (now : Time) (skipValidation : Bool) :
    ∃ snapshots after, runOn (devices.mapM fun device =>
        Backend.getProperties now device (properties.map Property.epc) skipValidation) backend = (.ok snapshots, after)
      ∧ snapshots.map (deviceRow · (properties.map Property.epc))
        = devices.map fun device => backend.valueRow now device (properties.map value) := by
  have offers : ∀ device ∈ devices, (backend.holding device).Offers (properties.map Property.epc) := by
    intro device isDevice
    refine ⟨answers device isDevice, fun epc asked => ?_⟩
    obtain ⟨wanted, mem, rfl⟩ := List.mem_map.mp asked
    rw [found device isDevice wanted mem]
    rfl
  have allowed : ∀ device ∈ devices, (skipValidation || backend.known.contains device) = true := by
    intro device isDevice
    rw [known device isDevice, Bool.or_true]
  obtain ⟨snapshots, after, ran, runs⟩ := readings_succeed now allowed offers
  refine ⟨snapshots, after, ran, ?_⟩
  rw [runs.readings.told, List.map_map]
  refine List.map_congr_left fun device isDevice => ?_
  obtain ⟨held, reached⟩ := Option.ne_none_iff_exists'.mp (answers device isDevice)
  have here : ∀ wanted ∈ properties, findEpc? wanted.epc held = some (value wanted) := by
    intro wanted mem
    have onNetwork := found device isDevice wanted mem
    rwa [Holding.value?, Backend.holding, reached] at onNetwork
  rw [Function.comp_apply, Backend.answerOf_eq reached, deviceRow_answered here]

end Writing

/-! ## A writing and the reading after it -/

/-- **A writing shows the first value of each code and leaves the last one.** For every command that succeeds at a
site that lines reach: its rows have the first wanted value of each code; each device holds the last one, on the
network and in the cache; and a reading of the same codes, at any time before another line, succeeds for the same
devices and shows the last values. So a row of the writing shows what the reading shows exactly if for each code the
first and the last value are described alike. This holds if no code is repeated, and of values with a byte only if
the first value is the last one. -/
theorem writing_shows_first {start backend after : Backend} {entries : List DeviceEntry}
    (accepted : Backend.ofEntries entries = .ok start) (reached : Reaches start backend) {now : Time}
    {target : Target} {properties : List Property} {outcome : Outcome}
    (succeeded : carryOut now (.set ⟨target, properties⟩) backend = (.ok outcome, after)) :
    ∃ devices : List Endpoint, outcome.answer = .devices (devices.map fun device =>
        backend.valueRow now device (properties.map (firstOf properties)))
      ∧ (∀ device ∈ devices, ∀ wanted ∈ properties,
        (after.holding device).value? wanted.epc = some (lastOf properties wanted)
          ∧ (after.holding device).cached? wanted.epc = some (lastOf properties wanted))
      ∧ (∀ later skipValidation,
        (carryOut later (.get ⟨target, properties.map Property.epc, skipValidation⟩) after).1
          = .ok { answer := .devices (devices.map fun device =>
                    backend.valueRow later device (properties.map (lastOf properties)))
                  devices := devices.length })
      ∧ (∀ device ∈ devices, ∀ later,
        (backend.valueRow now device (properties.map (firstOf properties))).properties
            = (backend.valueRow later device (properties.map (lastOf properties))).properties
          ↔ ∀ wanted ∈ properties, describeValue device.eoj.classCode (firstOf properties wanted)
            = describeValue device.eoj.classCode (lastOf properties wanted))
      ∧ ((properties.map Property.epc).Nodup →
        ∀ wanted ∈ properties, firstOf properties wanted = lastOf properties wanted)
      ∧ ((∀ wanted ∈ properties, wanted.edt ≠ []) → ∀ device ∈ devices, ∀ wanted ∈ properties,
        describeValue device.eoj.classCode (firstOf properties wanted)
            = describeValue device.eoj.classCode (lastOf properties wanted) →
          firstOf properties wanted = lastOf properties wanted) := by
  have sound := (sound_of_ofEntries accepted).changes reached.changes
  have changed : Changes backend after := by
    have changes := writing_changes now ⟨target, properties⟩ backend
    rwa [show runOn (Router.writing now ⟨target, properties⟩) backend = _ from succeeded] at changes
  obtain ⟨devices, resolved, written, keys, shown⟩ := writing_runs sound succeeded
  obtain ⟨known, -⟩ := resolved.known_nodup sound
  have left : ∀ device ∈ devices, ∀ wanted ∈ properties,
      (after.holding device).value? wanted.epc = some (lastOf properties wanted)
        ∧ (after.holding device).cached? wanted.epc = some (lastOf properties wanted) :=
    fun device isDevice wanted mem => (written.reached device isDevice).given _ _ (findEpc?_lastOf mem)
  have codes : ∀ wanted ∈ properties, (firstOf properties wanted).epc = (lastOf properties wanted).epc :=
    fun wanted mem => (firstOf_mem mem).2.trans (lastOf_mem mem).2.symm
  refine ⟨devices, shown, left, ?_, ?_, fun distinct wanted => firstOf_eq_lastOf distinct, ?_⟩
  · intro later skipValidation
    have knownAfter : ∀ device ∈ devices, after.known.contains device = true :=
      fun device mem => changed.known_grows (known device mem)
    obtain ⟨snapshots, last, all, rows⟩ := reading_runs knownAfter
      (fun device isDevice wanted mem => (left device isDevice wanted mem).1)
      (fun device mem => (sound.changes changed).answers (knownAfter device mem)) later skipValidation
    have again := resolved.again written.confined.groups keys skipValidation
    show (runOn (Router.reading later _) _).1 = _
    unfold Router.reading
    simp only [runOn_bind, again, all]
    show Except.ok (Outcome.mk (.devices (snapshots.map _)) _ _) = _
    rw [rows]
    simp only [Backend.valueRow, aliasOf?_congr written.confined.aliases]
  · intro device _ later
    exact valueRow_properties_eq_iff codes backend backend now later
  · intro some_byte device _ wanted mem alike
    exact eq_of_describeValue (codes wanted mem) (some_byte _ (firstOf_mem mem).1) (some_byte _ (lastOf_mem mem).1)
      alike

/-- A writing that turns an air conditioner on and off. -/
def onAndOff : SetCommand :=
  ⟨.device { ip := some (.v4 ⟨10, 0, 0, 1⟩) }, [⟨⟨0x80⟩, [0x30]⟩, ⟨⟨0x80⟩, [0x31]⟩]⟩

/-- The row of the air conditioner with the same value shown twice. -/
def rowOfTwice (now : Time) (value : String) : DeviceRow :=
  ⟨airConditioner, none, [⟨⟨0x80⟩, some "Operation status", value⟩, ⟨⟨0x80⟩, some "Operation status", value⟩], some now⟩

/-- The writing shows twice that the air conditioner is on, and the reading after it that it is off. -/
theorem writing_shows_first_repeated :
    ∃ found outcome after, Reaches siteOfTwo found
      ∧ found.directory.parse "set 10.0.0.1 80:30 80:31" = .ok (.set onAndOff)
      ∧ carryOut 2 (.set onAndOff) found = (.ok outcome, after)
      ∧ outcome.answer = .devices [rowOfTwice 2 "on"]
      ∧ (after.holding airConditioner).value? ⟨0x80⟩ = some ⟨⟨0x80⟩, [0x31]⟩
      ∧ (carryOut 3 (.get ⟨onAndOff.target, [⟨0x80⟩, ⟨0x80⟩], false⟩) after).1
        = .ok { answer := .devices [rowOfTwice 3 "off"], devices := 1 } := by
  have reached : Reaches siteOfTwo (siteOfTwo.lineOn 1 "discover").2 := .line 1 "discover" .refl
  have succeeded : carryOut 2 (.set onAndOff) (siteOfTwo.lineOn 1 "discover").2
      = (.ok { answer := .devices [rowOfTwice 2 "on"], devices := 1 },
        (carryOut 2 (.set onAndOff) (siteOfTwo.lineOn 1 "discover").2).2) := Prod.ext (by decide +kernel) rfl
  obtain ⟨devices, shown, left, reads, -⟩ := writing_shows_first ofEntries_two reached succeeded
  obtain ⟨device, rfl, row⟩ := List.map_eq_singleton_iff.mp (Answer.devices.inj shown).symm
  obtain rfl : device = airConditioner := congrArg DeviceRow.device row
  refine ⟨_, _, _, reached, by decide +kernel, succeeded, rfl, ?_, ?_⟩
  · exact (left _ (List.mem_singleton_self _) _ List.mem_cons_self).1
  · refine (reads 3 false).trans ?_
    decide +kernel

end DeviceConsole
