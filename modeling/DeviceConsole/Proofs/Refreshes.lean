import DeviceConsole.Proofs.Selection

/-!
# `Proofs.Refreshes` — a refresh reaches exactly what it counts

A refresh goes over the known devices that a specifier matches, or over the members of a group, each with the specifier
that only it agrees with. So it is a sequence of passes, and each pass changes the caches that the next one finds. As no
device agrees with two of the specifiers, no pass finds what an earlier one has changed: the passes come to one refresh
of all the devices, and their counts add up to the number of devices.

A cache is due if it is of the age at which it counts as old, or older; with force it is due in any case.

* `Backend.IsDue` — the cache of a known device is due;
* `Backend.Refreshes` — one refresh of exactly the devices that are due: `Refreshes.append`, `Refreshes.not_due`;
* `updateProperties_refreshes`, `passes_refresh` — one pass, and passes over devices that are apart;
* `refreshing_refreshes` — what a target comes to;
* `update_refreshes` — **a refresh reaches exactly the devices that it counts**, and leaves none of them due.
-/

namespace DeviceConsole

open Device (Endpoint Property Specifier)

variable {backend before between after : Backend} {device : Endpoint} {now : Time} {force : Bool}
  {aimed others : Endpoint → Prop} {devices refreshed rest : List Endpoint}

/-! ## Devices that are due -/

/-- The device is known, and its cache is old or is refreshed by force. -/
def Backend.IsDue (backend : Backend) (now : Time) (force : Bool) (device : Endpoint) : Prop :=
  ∃ known, backend.known.get? device = some known ∧ (force = true ∨ known.updated ≤ now - Backend.staleAfter)

theorem isDue_congr (same : after.known.get? device = before.known.get? device) :
    after.IsDue now force device ↔ before.IsDue now force device := by
  unfold Backend.IsDue
  rw [same]

/-! ## Refreshes -/

/-- **A refresh of the devices**: they are those that it is aimed at and that are due, each once; the cache of each is
all that the network has, at the current time; and nothing else has changed. -/
structure Backend.Refreshes (before : Backend) (now : Time) (force : Bool) (aimed : Endpoint → Prop)
    (refreshed : List Endpoint) (after : Backend) : Prop where
  once : refreshed.Nodup
  exactly : ∀ device, device ∈ refreshed ↔ aimed device ∧ before.IsDue now force device
  cached : ∀ device ∈ refreshed, ∃ onNetwork, before.network.get? device = some onNetwork
    ∧ after.known.get? device = some ⟨onNetwork, now⟩
  kept : ∀ device, device ∉ refreshed → after.known.get? device = before.known.get? device
  site : after = { before with known := after.known }

namespace Backend.Refreshes

theorem nil (nobody : ∀ device, ¬ aimed device) (backend : Backend) : backend.Refreshes now force aimed [] backend :=
  ⟨List.nodup_nil, fun device => iff_of_false List.not_mem_nil fun both => nobody device both.1, nofun,
    fun _ _ => rfl, rfl⟩

theorem congr (h : before.Refreshes now force aimed refreshed after) (same : ∀ device, aimed device ↔ others device) :
    before.Refreshes now force others refreshed after :=
  ⟨h.once, fun device => (h.exactly device).trans (and_congr_left' (same device)), h.cached, h.kept, h.site⟩

/-- **Refreshes that are aimed at different devices add up to one.** -/
theorem append (first : before.Refreshes now force aimed refreshed between)
    (second : between.Refreshes now force others rest after) (apart : ∀ device, aimed device → ¬ others device) :
    before.Refreshes now force (fun device => aimed device ∨ others device) (refreshed ++ rest) after := by
  have elsewhere : ∀ device, others device → device ∉ refreshed := fun device isOther mem =>
    apart device ((first.exactly device).mp mem).1 isOther
  have untouched : ∀ device ∈ refreshed, device ∉ rest := fun device mem inRest =>
    elsewhere device ((second.exactly device).mp inRest).1 mem
  have sameNetwork : between.network = before.network := by rw [first.site]
  constructor
  case once =>
    exact List.nodup_append.mpr ⟨first.once, second.once, fun _ mem _ inRest same => untouched _ mem (same ▸ inRest)⟩
  case exactly =>
    intro device
    rw [List.mem_append, first.exactly, second.exactly, or_and_right]
    -- the first refresh has not made any device of the second one due, or taken it away
    exact or_congr_right (and_congr_right fun isOther => isDue_congr (first.kept device (elsewhere device isOther)))
  case cached =>
    intro device mem
    rcases List.mem_append.mp mem with inFirst | inRest
    · rw [second.kept device (untouched device inFirst)]
      exact first.cached device inFirst
    · rw [← sameNetwork]
      exact second.cached device inRest
  case kept =>
    intro device outside
    obtain ⟨notFirst, notRest⟩ := not_or.mp (mt List.mem_append.mpr outside)
    exact (second.kept device notRest).trans (first.kept device notFirst)
  case site => rw [second.site, first.site]

/-- **What was refreshed is not due**, unless by force. -/
theorem not_due (h : before.Refreshes now force aimed refreshed after) (mem : device ∈ refreshed) :
    ¬ after.IsDue now false device := by
  rintro ⟨known, isKnown, never | old⟩
  · cases never
  · obtain ⟨onNetwork, -, cached⟩ := h.cached device mem
    rw [cached] at isKnown
    cases isKnown
    exact Int.not_le.mpr (Int.sub_lt_self now (by decide)) old

/-- After a refresh nothing that it was aimed at is due. -/
theorem none_due (h : before.Refreshes now force aimed refreshed after) (isAimed : aimed device) :
    ¬ after.IsDue now false device := by
  by_cases mem : device ∈ refreshed
  · exact h.not_due mem
  · rw [isDue_congr (h.kept device mem)]
    rintro ⟨known, isKnown, never | old⟩
    · cases never
    · exact mem ((h.exactly device).mpr ⟨isAimed, known, isKnown, .inr old⟩)

/-- A refresh of no device changes nothing. -/
theorem eq_of_nil (h : before.Refreshes now force aimed [] after) : after = before := by
  rw [h.site, OrderedMap.ext_get? fun device => h.kept device List.not_mem_nil]

end Backend.Refreshes

/-! ## One pass -/

/-- The refreshed cache of a device that is due is what the network has. -/
theorem refreshed?_eq_some_iff {entry fresh : Endpoint × KnownDevice} :
    backend.refreshed? now force entry = some fresh
      ↔ (force = true ∨ entry.2.updated ≤ now - Backend.staleAfter)
        ∧ ∃ onNetwork, backend.network.get? entry.1 = some onNetwork ∧ fresh = (entry.1, ⟨onNetwork, now⟩) := by
  unfold Backend.refreshed? Backend.isStale
  by_cases due : force = true ∨ entry.2.updated ≤ now - Backend.staleAfter
  · rw [if_pos (by simpa using due), Option.map_eq_some_iff, and_iff_right due]
    exact exists_congr fun onNetwork => and_congr_right fun _ => eq_comm
  · rw [if_neg (by simpa using due)]
    exact iff_of_false nofun fun both => due both.1

/-- **One pass is a refresh** of the known devices that the specifier matches. -/
theorem updateProperties_refreshes (sound : backend.Sound devices) (now : Time) (force : Bool)
    (specifier : Specifier) :
    ∃ refreshed after, runOn (Backend.updateProperties now ⟨specifier, []⟩ force) backend
        = (.ok refreshed.length, after)
      ∧ backend.Refreshes now force (Fits specifier) refreshed after := by
  let fresh := (backend.selected ⟨specifier, []⟩).filterMap (backend.refreshed? now force)
  have mem_fresh : ∀ device cache, (device, cache) ∈ fresh ↔ Fits specifier device ∧ backend.IsDue now force device
      ∧ ∃ properties, backend.network.get? device = some properties ∧ cache = ⟨properties, now⟩ := by
    intro device cache
    constructor
    · intro mem
      obtain ⟨⟨own, known⟩, selected, some_cache⟩ := List.mem_filterMap.mp mem
      obtain ⟨isKnown, fits, -⟩ := mem_selected_iff.mp selected
      obtain ⟨due, properties, reached, same⟩ := refreshed?_eq_some_iff.mp some_cache
      cases same
      exact ⟨fits, ⟨known, isKnown, due⟩, properties, reached, rfl⟩
    · rintro ⟨fits, ⟨known, isKnown, due⟩, properties, reached, rfl⟩
      exact List.mem_filterMap.mpr ⟨(device, known), mem_selected_iff.mpr ⟨isKnown, fits, nofun⟩,
        refreshed?_eq_some_iff.mpr ⟨due, properties, reached, rfl⟩⟩
  have once : (fresh.map Prod.fst).Nodup := by
    refine List.pairwise_map.mpr (List.pairwise_filterMap.mpr ?_)
    refine (List.pairwise_map.mp (backend.known.nodup_keys.sublist (List.filter_sublist.map _))).imp ?_
    intro entry other apart first isFirst second isSecond
    obtain ⟨-, _, -, rfl⟩ := refreshed?_eq_some_iff.mp isFirst
    obtain ⟨-, _, -, rfl⟩ := refreshed?_eq_some_iff.mp isSecond
    exact apart
  refine ⟨fresh.map Prod.fst, { backend with known := Backend.cacheAll backend.known fresh }, ?_, once, ?_, ?_, ?_, rfl⟩
  · rw [List.length_map]
    rfl
  · intro device
    rw [List.mem_map]
    constructor
    · rintro ⟨⟨own, cache⟩, mem, rfl⟩
      obtain ⟨fits, due, -⟩ := (mem_fresh own cache).mp mem
      exact ⟨fits, due⟩
    · rintro ⟨fits, known, isKnown, due⟩
      have answers := sound.known device (OrderedMap.contains_iff.mpr ⟨known, isKnown⟩)
      obtain ⟨properties, reached⟩ := OrderedMap.contains_iff.mp answers
      exact ⟨(device, ⟨properties, now⟩),
        (mem_fresh _ _).mpr ⟨fits, ⟨known, isKnown, due⟩, properties, reached, rfl⟩, rfl⟩
  · intro device mem
    obtain ⟨⟨own, cache⟩, inFresh, rfl⟩ := List.mem_map.mp mem
    obtain ⟨-, -, properties, reached, rfl⟩ := (mem_fresh own cache).mp inFresh
    exact ⟨properties, reached, get?_cacheAll_of_mem once inFresh⟩
  · exact fun device outside => get?_cacheAll_of_not_mem outside

/-! ## Passes -/

/-- **Passes over devices that are apart come to one refresh**, and count its devices. -/
theorem passes_refresh {specifiers : List Specifier}
    (apart : specifiers.Pairwise fun one other => ∀ device, Fits one device → ¬ Fits other device)
    (sound : backend.Sound devices) (now : Time) (force : Bool) :
    ∃ counts refreshed after, runOn (specifiers.mapM fun specifier =>
        Backend.updateProperties now ⟨specifier, []⟩ force) backend = (.ok counts, after)
      ∧ counts.foldl (· + ·) 0 = refreshed.length
      ∧ backend.Refreshes now force (fun device => ∃ specifier ∈ specifiers, Fits specifier device) refreshed
        after := by
  induction specifiers generalizing backend with
  | nil => exact ⟨[], [], backend, rfl, rfl, .nil (by simp) backend⟩
  | cons specifier rest ih =>
    obtain ⟨apartFirst, apartRest⟩ := List.pairwise_cons.mp apart
    obtain ⟨refreshed, between, ran, first⟩ := updateProperties_refreshes sound now force specifier
    have soundStill : between.Sound devices := by
      obtain ⟨count, after, same, changes⟩ := @updateProperties_changes backend now ⟨specifier, []⟩ force
      rw [ran] at same
      cases same
      exact sound.changes changes
    obtain ⟨counts, others, after, ranRest, total, second⟩ := ih apartRest soundStill
    refine ⟨refreshed.length :: counts, refreshed ++ others, after, ?_, ?_, ?_⟩
    · rw [List.mapM_cons, runOn_bind, ran]
      show runOn (rest.mapM _ >>= _) between = _
      rw [runOn_bind, ranRest]
      rfl
    · rw [← List.sum_eq_foldl_nat, List.sum_cons, List.sum_eq_foldl_nat, total, List.length_append]
    · refine (first.append second ?_).congr fun device => by simp
      rintro device fits ⟨other, mem, fitsOther⟩
      exact apartFirst other mem device fits fitsOther

/-! ## Targets -/

theorem fits_exact {other : Endpoint} : Fits (.exact device) other ↔ other = device := by
  rw [← covers_iff, covers_exact]

/-- The target is not a group that is not defined. -/
def Backend.Defines (backend : Backend) (target : Option Target) : Prop :=
  ∀ name, target = some (.group name) → backend.groups.contains name = true

/-- What a target is about depends on the groups alone. -/
theorem aims_congr (same : after.groups = before.groups) (target : Option Target) :
    after.Aims target device ↔ before.Aims target device := by
  unfold Backend.Aims
  rw [same]

/-- A refresh of a group that is not defined fails. -/
theorem refreshing_undefined {name : String} (undefined : backend.groups.get? name = none) (now : Time) (force : Bool) :
    runOn (Router.refreshing now ⟨some (.group name), force⟩) backend
      = (.error (.execution (.failed (.undefinedGroup name))), backend) := by
  unfold Router.refreshing Router.refreshTargets
  simp only [runOn_bind, runOn_members, undefined]

/-- **A target that is defined comes to specifiers** that match the devices that it is about, and no device agrees with
two of them. -/
theorem refreshTargets_apart (sound : backend.Sound devices) {target : Option Target}
    (defined : backend.Defines target) :
    ∃ specifiers, runOn (Router.refreshTargets target) backend = (.ok specifiers, backend)
      ∧ (specifiers.Pairwise fun one other => ∀ device, Fits one device → ¬ Fits other device)
      ∧ ∀ device, (∃ specifier ∈ specifiers, Fits specifier device) ↔ backend.Aims target device := by
  cases target with
  | none =>
    refine ⟨[.any], rfl, List.pairwise_singleton _ _, fun device => iff_of_true ?_ trivial⟩
    exact ⟨.any, List.mem_singleton_self _, fits_any⟩
  | some target =>
    cases target with
    | device specifier =>
      exact ⟨[specifier], rfl, List.pairwise_singleton _ _, fun device => by simp [Backend.Aims]⟩
    | group name =>
      obtain ⟨members, bound⟩ := OrderedMap.contains_iff.mp (defined name rfl)
      obtain ⟨-, distinct, -, -⟩ := sound.groups name members bound
      refine ⟨members.map .exact, ?_, List.pairwise_map.mpr (distinct.imp ?_), fun device => ?_⟩
      · rw [Router.refreshTargets, runOn_bind, runOn_members, bound]
        rfl
      · intro one other ne device isOne isOther
        exact ne ((fits_exact.mp isOne).symm.trans (fits_exact.mp isOther))
      · simp [Backend.Aims, bound, fits_exact]

/-- What an update answers that has reached a number of devices. -/
def updated (count : Nat) : Outcome :=
  { answer := .message (Router.counted count "updated"), devices := count }

/-- **An update of a target that is defined is one refresh** of the devices that the target is about. -/
theorem refreshing_refreshes (sound : backend.Sound devices) {target : Option Target}
    (defined : backend.Defines target) (now : Time) (force : Bool) :
    ∃ refreshed after, runOn (Router.refreshing now ⟨target, force⟩) backend = (.ok (updated refreshed.length), after)
      ∧ backend.Refreshes now force (backend.Aims target) refreshed after := by
  obtain ⟨specifiers, found, apart, covers⟩ := refreshTargets_apart sound defined
  obtain ⟨counts, refreshed, after, ran, total, reached⟩ := passes_refresh apart sound now force
  refine ⟨refreshed, after, ?_, reached.congr covers⟩
  unfold Router.refreshing
  simp only [runOn_bind, found, ran]
  show (Except.ok (updated (counts.foldl (· + ·) 0)), after) = _
  rw [total]

/-! ## Updates -/

/-- **A refresh reaches exactly the devices that it counts.** On every site that lines reach, at any time, an update
that is aimed at a group that is not defined fails and changes nothing. In any other update the devices whose caches are
replaced are exactly the known ones that the target is about and that are due, each once, and their number is reported;
each of them has all that the network has in its cache, with the current time, and nothing else has changed. An update
of the same target without force right after it, at the same time, finds nothing to do, and an update of any other
target without force reaches none of these devices. -/
theorem update_refreshes {start : Backend} {entries : List DeviceEntry}
    (accepted : Backend.ofEntries entries = .ok start) (reached : Reaches start backend) (now : Time)
    (command : UpdateCommand) :
    (∀ name, command.target = some (.group name) → backend.groups.get? name = none →
      carryOut now (.update command) backend = (.error (.execution (.failed (.undefinedGroup name))), backend))
    ∧ (backend.Defines command.target →
      ∃ refreshed after, carryOut now (.update command) backend = (.ok (updated refreshed.length), after)
        ∧ backend.Refreshes now command.force (backend.Aims command.target) refreshed after
        ∧ carryOut now (.update ⟨command.target, false⟩) after = (.ok (updated 0), after)
        ∧ ∀ target, after.Defines target →
          ∃ others last, carryOut now (.update ⟨target, false⟩) after = (.ok (updated others.length), last)
            ∧ after.Refreshes now false (after.Aims target) others last ∧ ∀ device ∈ refreshed, device ∉ others) := by
  have sound := (sound_of_ofEntries accepted).changes reached.changes
  have routed : ∀ command backend,
      carryOut now (.update command) backend = runOn (Router.refreshing now command) backend := fun _ _ => rfl
  obtain ⟨target, force⟩ := command
  simp only [routed]
  constructor
  · rintro name rfl undefined
    exact refreshing_undefined undefined now force
  intro defined
  obtain ⟨refreshed, after, ran, refreshes⟩ := refreshing_refreshes sound defined now force
  have soundAfter : after.Sound start.network.keys := by
    have changes := refreshing_changes now ⟨target, force⟩ backend
    rw [ran] at changes
    exact sound.changes changes
  have sameGroups : after.groups = backend.groups := by rw [refreshes.site]
  refine ⟨refreshed, after, ran, refreshes, ?_, fun other definedOther => ?_⟩
  · have stillDefined : after.Defines target := by
      unfold Backend.Defines
      rw [sameGroups]
      exact defined
    obtain ⟨others, last, ranAgain, again⟩ := refreshing_refreshes soundAfter stillDefined now false
    -- whatever the target is about was due and is refreshed, or was not due and is not due now
    obtain rfl : others = [] := List.eq_nil_iff_forall_not_mem.mpr fun device mem => by
      obtain ⟨isAimed, due⟩ := (again.exactly device).mp mem
      exact refreshes.none_due ((aims_congr sameGroups target).mp isAimed) due
    rw [ranAgain, again.eq_of_nil]
    rfl
  · obtain ⟨others, last, ranAgain, again⟩ := refreshing_refreshes soundAfter definedOther now false
    exact ⟨others, last, ranAgain, again, fun device mem isOther =>
      refreshes.not_due mem ((again.exactly device).mp isOther).2⟩

/-- The site of the group half a minute after it was found, when the first air conditioner has been read again. -/
def siteOfHalf : Backend := (siteOfGroup.lineOn 30000000000 "get 10.0.0.1 80").2

/-- Exactly one minute after the group was found only the second air conditioner is due; it is refreshed, and then an
update has nothing to do. -/
theorem update_refreshes_second :
    siteOfHalf.Defines (some (.group "@all"))
    ∧ ∃ after, carryOut 60000000001 (.update ⟨some (.group "@all"), false⟩) siteOfHalf = (.ok (updated 1), after)
      ∧ after.known.get? secondConditioner = some ⟨[⟨⟨0xB0⟩, [0x42]⟩], 60000000001⟩
      ∧ after.known.get? airConditioner = siteOfHalf.known.get? airConditioner
      ∧ carryOut 60000000001 (.update ⟨some (.group "@all"), false⟩) after = (.ok (updated 0), after) := by
  have bound : siteOfHalf.groups.get? "@all" = some [airConditioner, secondConditioner] := by decide +kernel
  have defined : siteOfHalf.Defines (some (.group "@all")) := by
    rintro name ⟨⟩
    exact OrderedMap.contains_iff.mpr ⟨_, bound⟩
  have reached : Reaches siteOfTwo siteOfHalf := .line 30000000000 "get 10.0.0.1 80" reaches_siteOfGroup
  obtain ⟨refreshed, after, ran, refreshes, again, -⟩ :=
    (update_refreshes ofEntries_two reached 60000000001 ⟨some (.group "@all"), false⟩).2 defined
  have told : (carryOut 60000000001 (.update ⟨some (.group "@all"), false⟩) siteOfHalf).1 = .ok (updated 1) := by
    decide +kernel
  rw [ran] at told
  have one : refreshed.length = 1 := congrArg Outcome.devices (Except.ok.inj told)
  have isKnown : siteOfHalf.known.get? secondConditioner = some ⟨[⟨⟨0xB0⟩, [0x42]⟩], 1⟩ := by decide +kernel
  have old : (1 : Time) ≤ 60000000001 - Backend.staleAfter := by decide +kernel
  have second : secondConditioner ∈ refreshed :=
    (refreshes.exactly _).mpr ⟨⟨_, bound, by simp⟩, _, isKnown, .inr old⟩
  obtain ⟨only, rfl⟩ := List.length_eq_one_iff.mp one
  obtain rfl := List.mem_singleton.mp second
  obtain ⟨onNetwork, answers, cached⟩ := refreshes.cached _ second
  have held : siteOfHalf.network.get? secondConditioner = some [⟨⟨0xB0⟩, [0x42]⟩] := by decide +kernel
  obtain rfl : onNetwork = [⟨⟨0xB0⟩, [0x42]⟩] := Option.some.inj (answers.symm.trans held)
  exact ⟨defined, after, ran, cached, refreshes.kept _ (by decide +kernel), again⟩

end DeviceConsole
