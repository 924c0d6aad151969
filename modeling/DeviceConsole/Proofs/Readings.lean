import DeviceConsole.Proofs.Selection

/-!
# `Proofs.Readings` — a reading answers every question asked

A reading first looks for the devices that its target stands for, then asks them one after the other, and makes the
rows from the answers. Each of these steps can fail. Here the readings that succeed are described by their targets and
by the network alone, and what they answer by what is on the network at the beginning.

* `Backend.Asked` — the devices that the target of a reading stands for;
* `Asked.resolves`, `asked_of_resolve` — they are the ones that are found;
* `RowRead` — the row of a device that was asked: `rowRead_deviceRow`;
* `reading_answers` — **a reading succeeds exactly if all its questions can be answered**, and then it answers them.
-/

namespace DeviceConsole

open Device (Endpoint Epc Property Specifier findEpc? findEpc?_answered forall₂_answer mem_of_findEpc?)
open Router (deviceRow)

variable {backend after : Backend} {devices : List Endpoint} {device : Endpoint} {target : Target}
  {skipValidation : Bool}

/-! ## The devices of a target -/

/-- The devices that a reading asks: the members of a group, in order; the only known device that the specifier
matches; or without validation, if the specifier matches no known device but gives an address and a class, the device
that these name, with instance 1 unless another one is given, provided that it is on the network. -/
inductive Backend.Asked (backend : Backend) (skipValidation : Bool) : Target → List Endpoint → Prop
  | members {name : String} {members : List Endpoint} :
      backend.groups.get? name = some members → backend.Asked skipValidation (.group name) members
  | one {specifier : Specifier} {device : Endpoint} :
      (∀ other, backend.known.contains other = true ∧ Fits specifier other ↔ other = device) →
      backend.Asked skipValidation (.device specifier) [device]
  | unknown {specifier : Specifier} {device : Endpoint} :
      skipValidation = true → (∀ other, backend.known.contains other = true → ¬ Fits specifier other) →
      specifier.ip = some device.ip → specifier.classCode = some device.eoj.classCode →
      device.eoj.instanceCode = specifier.instanceCode.getD 1 → backend.network.contains device = true →
      backend.Asked skipValidation (.device specifier) [device]

theorem findDevices_eq_singleton_iff {specifier : Specifier} :
    backend.findDevices specifier = [device]
      ↔ ∀ other, backend.known.contains other = true ∧ Fits specifier other ↔ other = device := by
  simp only [← mem_findDevices_iff]
  constructor
  · intro only other
    rw [only, List.mem_singleton]
  · intro only
    have same : (backend.findDevices specifier).Perm [device] :=
      (List.perm_ext_iff_of_nodup (nodup_findDevices specifier backend) (List.nodup_singleton device)).mpr
        fun other => (only other).trans List.mem_singleton.symm
    exact List.perm_singleton.mp same

/-- What a target stands for is found. -/
theorem Backend.Asked.resolves (h : backend.Asked skipValidation target devices) :
    runOn (Router.resolve target skipValidation) backend = (.ok devices, backend) := by
  cases h with
  | members bound =>
    show runOn (Router.members _) backend = _
    rw [runOn_members, bound]
  | one only => exact runOn_resolve_one (findDevices_eq_singleton_iff.mpr only) skipValidation
  | @unknown specifier device skip none ip classCode instanceCode _ =>
    unfold Router.resolve
    simp only [runOn_get_bind, findDevices_eq_nil_iff.mpr none, skip, ip, classCode, ← instanceCode]
    rfl

/-- **What is found and on the network is what the target stands for.** -/
theorem asked_of_resolve (found : runOn (Router.resolve target skipValidation) backend = (.ok devices, after))
    (reached : ∀ device ∈ devices, backend.network.contains device = true) :
    backend.Asked skipValidation target devices := by
  cases target with
  | group name =>
    change runOn (Router.members name) backend = _ at found
    rw [runOn_members] at found
    cases bound : backend.groups.get? name with
    | none =>
      rw [bound] at found
      cases found
    | some members =>
      rw [bound] at found
      cases found
      exact .members bound
  | device specifier =>
    unfold Router.resolve at found
    simp only [runOn_get_bind] at found
    split at found
    · next device only =>
      cases found
      exact .one (findDevices_eq_singleton_iff.mp only)
    · next none =>
      split at found
      · next ip classCode isIp isClass =>
        cases found
        exact .unknown rfl (findDevices_eq_nil_iff.mp none) isIp isClass rfl (reached _ (List.mem_singleton_self _))
      · cases found
    · cases found

/-! ## Rows -/

/-- The row of a device that was asked: its alias, and for each code in order, as often as it was asked, the first value
on the network. -/
structure RowRead (backend : Backend) (now : Time) (epcs : List Epc) (device : Endpoint) (row : DeviceRow) : Prop where
  asked : row.device = device
  aliasName : row.aliasName = backend.aliasOf? device
  values : List.Forall₂ (fun epc shown => shown.epc = epc ∧ ∃ property,
    (backend.holding device).value? epc = some property ∧ shown = propertyRow device.eoj.classCode property)
    epcs row.properties
  updated : row.updated = some now

theorem rowRead_deviceRow {now : Time} {epcs : List Epc} (offers : (backend.holding device).Offers epcs) :
    RowRead backend now epcs device (deviceRow (backend.answerOf now epcs device) epcs) := by
  obtain ⟨onNetwork, reached⟩ := Option.ne_none_iff_exists'.mp offers.answers
  have held : ∀ epc, (backend.holding device).value? epc = findEpc? epc onNetwork := fun epc => by
    rw [Holding.value?, reached]
    rfl
  have supported : ∀ epc ∈ epcs, (findEpc? epc onNetwork).isSome = true := fun epc asked =>
    held epc ▸ offers.codes epc asked
  rw [Backend.answerOf_eq reached]
  refine ⟨rfl, rfl, ?_, rfl⟩
  -- the row looks the codes up in the answer, and finds what the answer was made of
  show List.Forall₂ _ epcs (List.map _ (epcs.filterMap fun epc =>
    findEpc? epc (epcs.filterMap fun epc => findEpc? epc onNetwork)))
  rw [List.filterMap_congr fun epc asked => findEpc?_answered asked onNetwork, List.forall₂_map_right_iff]
  refine (forall₂_answer supported).imp fun epc property found => ⟨(mem_of_findEpc? found).2, property, ?_, rfl⟩
  rw [held, found]

/-! ## Readings -/

/-- The devices that a reading asks are allowed, on the network, and none of them is there twice. -/
theorem Backend.Asked.askable {known : List Endpoint} (sound : backend.Sound known)
    (h : backend.Asked skipValidation target devices) :
    devices.Nodup ∧ ∀ device ∈ devices, (skipValidation || backend.known.contains device) = true
      ∧ backend.network.contains device = true := by
  cases h with
  | members bound =>
    obtain ⟨-, distinct, isKnown, -⟩ := sound.groups _ _ bound
    refine ⟨distinct, fun device mem => ⟨?_, sound.known device (isKnown device mem)⟩⟩
    rw [isKnown device mem, Bool.or_true]
  | @one specifier device only =>
    have isKnown := ((only device).mpr rfl).1
    refine ⟨List.nodup_singleton device, fun other mem => ?_⟩
    cases List.mem_singleton.mp mem
    exact ⟨by rw [isKnown, Bool.or_true], sound.known device isKnown⟩
  | @unknown specifier device skip _ _ _ _ onNetwork =>
    refine ⟨List.nodup_singleton device, fun other mem => ?_⟩
    cases List.mem_singleton.mp mem
    exact ⟨by rw [skip, Bool.true_or], onNetwork⟩

/-- The target of the reading stands for the devices, and each of them has every code. -/
structure GetCommand.AnsweredBy (command : GetCommand) (backend : Backend) (devices : List Endpoint) : Prop where
  asked : backend.Asked command.skipValidation command.target devices
  supported : ∀ device ∈ devices, ∀ epc ∈ command.epcs, ((backend.holding device).value? epc).isSome = true

theorem GetCommand.AnsweredBy.offers {command : GetCommand} {known : List Endpoint} (sound : backend.Sound known)
    (h : command.AnsweredBy backend devices) : ∀ device ∈ devices, (backend.holding device).Offers command.epcs := by
  intro device mem
  obtain ⟨onNetwork, reached⟩ := OrderedMap.contains_iff.mp ((h.asked.askable sound).2 device mem).2
  refine ⟨?_, h.supported device mem⟩
  show backend.network.get? device ≠ none
  rw [reached]
  exact nofun

/-- A reading whose questions can be answered. -/
theorem GetCommand.AnsweredBy.reads {command : GetCommand} {known : List Endpoint} (sound : backend.Sound known)
    (h : command.AnsweredBy backend devices) (now : Time) :
    ∃ rows after, runOn (Router.reading now command) backend
        = (.ok { answer := .devices rows, devices := devices.length }, after)
      ∧ List.Forall₂ (RowRead backend now command.epcs) devices rows
      ∧ EachOf (Holding.Read now command.epcs) devices backend after := by
  obtain ⟨distinct, askable⟩ := h.asked.askable sound
  have offers := h.offers sound
  obtain ⟨snapshots, after, ran, runs⟩ := readings_succeed now (fun device mem => (askable device mem).1) offers
  refine ⟨snapshots.map (deviceRow · command.epcs), after, ?_, ?_, ?_⟩
  · unfold Router.reading
    simp only [runOn_bind, h.asked.resolves, ran]
    rfl
  · rw [runs.readings.told, List.map_map, List.forall₂_map_right_iff, List.forall₂_same]
    exact fun device mem => rowRead_deviceRow (offers device mem)
  · exact runs.eachOf distinct fun device _ between snapshot next _ ran => (getProperties_read ran).1

/-- **A reading that succeeds has asked the devices of its target**, and they have all the codes. -/
theorem answeredBy_of_ok {command : GetCommand} {now : Time} {outcome : Outcome}
    (ran : runOn (Router.reading now command) backend = (.ok outcome, after)) :
    ∃ devices, command.AnsweredBy backend devices := by
  obtain ⟨devices, snapshots, found, -, runs, -⟩ := runs_of_ok ran
  have offers := runs.readings.offers
  refine ⟨devices, asked_of_resolve found fun device mem => ?_, fun device mem => (offers device mem).codes⟩
  exact OrderedMap.contains_iff.mpr (Option.ne_none_iff_exists'.mp (offers device mem).answers)

/-- **A reading answers every question asked.** On every site that lines reach, a reading succeeds exactly if its
target stands for devices on the network that have all the codes. Then there is one row for each of these devices, in
their order, and it has for each code in order, as often as it was asked, the value on the network; afterwards each of
the devices is known, with these values in its cache. Nothing else has changed. -/
theorem reading_answers {start : Backend} {entries : List DeviceEntry}
    (accepted : Backend.ofEntries entries = .ok start) (reached : Reaches start backend) (now : Time)
    (command : GetCommand) :
    ((∃ outcome, (carryOut now (.get command) backend).1 = .ok outcome)
      ↔ ∃ devices, command.AnsweredBy backend devices)
    ∧ ∀ devices, command.AnsweredBy backend devices →
      ∃ rows after, carryOut now (.get command) backend
          = (.ok { answer := .devices rows, devices := devices.length }, after)
        ∧ List.Forall₂ (RowRead backend now command.epcs) devices rows
        ∧ EachOf (Holding.Read now command.epcs) devices backend after := by
  have sound := (sound_of_ofEntries accepted).changes reached.changes
  have routed : carryOut now (.get command) backend = runOn (Router.reading now command) backend := rfl
  rw [routed]
  refine ⟨⟨?_, ?_⟩, fun devices answered => answered.reads sound now⟩
  · rintro ⟨outcome, succeeded⟩
    exact answeredBy_of_ok (Prod.ext succeeded rfl)
  · rintro ⟨devices, answered⟩
    obtain ⟨rows, after, ran, -⟩ := answered.reads sound now
    exact ⟨_, congrArg Prod.fst ran⟩

/-- A reading that asks the group twice for the mode. -/
def modesTwice : GetCommand := ⟨.group "@all", [⟨0xB0⟩, ⟨0xB0⟩], false⟩

/-- A reading of an air conditioner by its address and class alone. -/
def statusUnchecked : GetCommand :=
  ⟨.device { ip := some (.v4 ⟨10, 0, 0, 1⟩), classCode := some ⟨0x0130⟩ }, [⟨0x80⟩], true⟩

/-- The row of an air conditioner that shows its mode twice. -/
def rowOfMode (device : Endpoint) (value : String) : DeviceRow :=
  ⟨device, none, [⟨⟨0xB0⟩, some "Operation mode setting", value⟩, ⟨⟨0xB0⟩, some "Operation mode setting", value⟩],
    some 3⟩

/-- Each member of the group answers twice, in order. And before anything is known the air conditioner at the address
answers, and is known then. -/
theorem reading_answers_twice :
    (siteOfGroup.directory.parse "get @all B0 B0" = .ok (.get modesTwice)
      ∧ ∃ after, carryOut 3 (.get modesTwice) siteOfGroup
        = (.ok { answer := .devices [rowOfMode airConditioner "auto", rowOfMode secondConditioner "cooling"]
                 devices := 2 }, after))
    ∧ siteOfTwo.directory.parse "get 10.0.0.1 0130 80 -skip-validation" = .ok (.get statusUnchecked)
      ∧ siteOfTwo.known.contains airConditioner = false
      ∧ ∃ rows after, carryOut 1 (.get statusUnchecked) siteOfTwo
          = (.ok { answer := .devices rows, devices := 1 }, after)
        ∧ (after.holding airConditioner).known.map KnownDevice.updated = some 1
        ∧ (after.holding airConditioner).cached? ⟨0x80⟩ = some ⟨⟨0x80⟩, [0x30]⟩ := by
  have bound : siteOfGroup.groups.get? "@all" = some [airConditioner, secondConditioner] := by decide +kernel
  have answered : modesTwice.AnsweredBy siteOfGroup [airConditioner, secondConditioner] :=
    ⟨.members bound, by decide +kernel⟩
  have unchecked : statusUnchecked.AnsweredBy siteOfTwo [airConditioner] :=
    ⟨.unknown rfl (fun other known => by cases known) rfl rfl rfl (by decide +kernel), by decide +kernel⟩
  obtain ⟨rows, after, ran, -, -⟩ := (reading_answers ofEntries_two reaches_siteOfGroup 3 modesTwice).2 _ answered
  obtain ⟨row, found, ranUnchecked, -, read⟩ := (reading_answers ofEntries_two .refl 1 statusUnchecked).2 _ unchecked
  have told : (carryOut 3 (.get modesTwice) siteOfGroup).1
      = .ok { answer := .devices [rowOfMode airConditioner "auto", rowOfMode secondConditioner "cooling"]
              devices := 2 } := by decide +kernel
  rw [ran] at told
  cases told
  obtain ⟨onNetwork, isKnown, answers, -⟩ := read.reached airConditioner (List.mem_singleton_self _)
  obtain ⟨property, onDevice, cached⟩ := answers ⟨0x80⟩ (List.mem_singleton_self _)
  have held : (siteOfTwo.holding airConditioner).value? ⟨0x80⟩ = some ⟨⟨0x80⟩, [0x30]⟩ := by decide +kernel
  exact ⟨⟨by decide +kernel, after, ran⟩, by decide +kernel, by decide +kernel, row, found, ranUnchecked, isKnown,
    cached.trans (onDevice.symm.trans held)⟩

end DeviceConsole
