import DeviceConsole.Proofs.Selection

/-!
# `Proofs.Groups` — groups are ordered sets

A group command first collects the known devices that its specifiers match, each once although the specifiers may
overlap, and then puts them into the group or takes them out, each once although they may be there already. A group that
has lost its last member is not there any more. What comes of the two loops and this rule are the laws of sets, with the
order of the members on top.

What is known does not change, so a second command collects the same devices. Nothing is said of a command without
specifiers, which no line gives; it would define a group without members.

* `Backend.Matches`, `Backend.matched` — specifiers that match, and the devices that they match: `runOn_expand`;
* `IsGroup` — one group has the members and all else is as it was: `IsGroup.trans`, `IsGroup.unique`;
* `joined`, `without` — members after a command: `joined_joined`, `without_joined`;
* `grouping_add`, `grouping_remove`, `grouping_unmatched` — what the two commands do;
* `groups_are_sets` — **adding and removing are set operations**.
-/

namespace DeviceConsole

open Device (Endpoint Specifier)

variable {backend before between after : Backend} {device : Endpoint} {name : String}
  {devices members : List Endpoint} {specifiers others : List Specifier}

/-! ## Devices that specifiers match -/

/-- Each of the specifiers matches a known device. -/
def Backend.Matches (backend : Backend) (specifiers : List Specifier) : Prop :=
  ∀ specifier ∈ specifiers, ∃ device, backend.known.contains device = true ∧ Fits specifier device

/-- The known devices that the specifiers match, in order and each once. -/
def Backend.matched (backend : Backend) (specifiers : List Specifier) : List Endpoint :=
  (specifiers.flatMap backend.findDevices).eraseDups

theorem mem_matched_iff :
    device ∈ backend.matched specifiers
      ↔ backend.known.contains device = true ∧ ∃ specifier ∈ specifiers, Fits specifier device := by
  simp only [Backend.matched, List.mem_eraseDups, List.mem_flatMap, mem_findDevices_iff]
  constructor
  · rintro ⟨specifier, mem, known, fits⟩
    exact ⟨known, specifier, mem, fits⟩
  · rintro ⟨known, specifier, mem, fits⟩
    exact ⟨specifier, mem, known, fits⟩

theorem nodup_matched (specifiers : List Specifier) (backend : Backend) : (backend.matched specifiers).Nodup :=
  nodup_eraseDups _

/-- A specifier that finds something matches. -/
theorem exists_fits {specifier : Specifier} (found : backend.findDevices specifier ≠ []) :
    ∃ device, backend.known.contains device = true ∧ Fits specifier device :=
  (List.exists_mem_of_ne_nil _ found).imp fun _ => mem_findDevices_iff.mp

theorem matched_ne_nil (allMatch : backend.Matches specifiers) (some_specifier : specifiers ≠ []) :
    backend.matched specifiers ≠ [] := by
  obtain ⟨specifier, mem⟩ := List.exists_mem_of_ne_nil _ some_specifier
  obtain ⟨device, known, fits⟩ := allMatch specifier mem
  exact List.ne_nil_of_mem (mem_matched_iff.mpr ⟨known, specifier, mem, fits⟩)

/-- What specifiers match depends on what is known alone. -/
theorem matched_congr (same : after.known = before.known) (specifiers : List Specifier) :
    after.matched specifiers = before.matched specifiers := by
  unfold Backend.matched Backend.findDevices
  rw [same]

theorem Backend.Matches.congr (h : before.Matches specifiers) (same : after.known = before.known) :
    after.Matches specifiers := by
  unfold Backend.Matches
  rw [same]
  exact h

/-- Specifiers that match are collected. -/
theorem runOn_expand (allMatch : backend.Matches specifiers) (found : List Endpoint) :
    runOn (Router.expand specifiers found) backend
      = (.ok (addAllNew found (specifiers.flatMap backend.findDevices)), backend) := by
  induction specifiers generalizing found with
  | nil => rfl
  | cons specifier rest ih =>
    obtain ⟨here, later⟩ := List.forall_mem_cons.mp allMatch
    have some_device : ¬ (backend.findDevices specifier).isEmpty = true := by
      intro none
      obtain ⟨device, known, fits⟩ := here
      exact findDevices_eq_nil_iff.mp (List.isEmpty_iff.mp none) device known fits
    rw [Router.expand, runOn_get_bind]
    simp only [if_neg some_device]
    rw [ih later, List.flatMap_cons, addAllNew_append]

/-- A specifier that matches nothing is an error. -/
theorem runOn_expand_unmatched (unmatched : ¬ backend.Matches specifiers) (found : List Endpoint) :
    ∃ specifier ∈ specifiers, (∀ device, backend.known.contains device = true → ¬ Fits specifier device)
      ∧ runOn (Router.expand specifiers found) backend
        = (.error (.execution (.deviceNotFound specifier.toText)), backend) := by
  induction specifiers generalizing found with
  | nil => exact absurd (List.forall_mem_nil _) unmatched
  | cons specifier rest ih =>
    rw [Router.expand, runOn_get_bind]
    by_cases none : (backend.findDevices specifier).isEmpty = true
    · simp only [if_pos none]
      exact ⟨specifier, List.mem_cons_self, findDevices_eq_nil_iff.mp (List.isEmpty_iff.mp none), rfl⟩
    · have here := exists_fits fun empty => none (List.isEmpty_iff.mpr empty)
      have unmatchedRest : ¬ backend.Matches rest := fun later => unmatched (List.forall_mem_cons.mpr ⟨here, later⟩)
      obtain ⟨other, mem, nobody, failed⟩ := ih unmatchedRest (addAllNew found (backend.findDevices specifier))
      simp only [if_neg none]
      exact ⟨other, List.mem_cons_of_mem _ mem, nobody, failed⟩

/-! ## One group -/

/-- The members of a group; none if it is not there. -/
def Backend.membersOf (backend : Backend) (name : String) : List Endpoint := (backend.groups.get? name).getD []

/-- The group has the members, it is there exactly if it has one, and all else is as it was. -/
structure IsGroup (name : String) (members : List Endpoint) (before after : Backend) : Prop where
  bound : after.groups.get? name = if members = [] then none else some members
  others : ∀ other, other ≠ name → after.groups.get? other = before.groups.get? other
  site : after = { before with groups := after.groups }

namespace IsGroup

theorem membersOf (h : IsGroup name members before after) : after.membersOf name = members := by
  rw [Backend.membersOf, h.bound]
  split
  · next none => rw [none]; rfl
  · rfl

theorem known (h : IsGroup name members before after) : after.known = before.known := by rw [h.site]

theorem self (h : IsGroup name members before after) : IsGroup name members after after :=
  ⟨h.bound, fun _ _ => rfl, rfl⟩

theorem trans (first : IsGroup name devices before between) (second : IsGroup name members between after) :
    IsGroup name members before after :=
  ⟨second.bound, fun other ne => (second.others other ne).trans (first.others other ne),
    by rw [second.site, first.site]⟩

/-- **The members of one group tell the whole site.** -/
theorem unique {first second : Backend} (h : IsGroup name members before first)
    (again : IsGroup name members before second) : first = second := by
  have same : first.groups = second.groups := by
    refine OrderedMap.ext_get? fun other => ?_
    by_cases isName : other = name
    · rw [isName, h.bound, again.bound]
    · rw [h.others other isName, again.others other isName]
  rw [h.site, again.site, same]

/-- On a sound site no group is without members. -/
theorem refl (sound : backend.Sound devices) (name : String) :
    IsGroup name (backend.membersOf name) backend backend := by
  refine ⟨?_, fun _ _ => rfl, rfl⟩
  unfold Backend.membersOf
  cases bound : backend.groups.get? name with
  | none => rfl
  | some members => exact (if_neg (sound.groups name members bound).1).symm

end IsGroup

/-! ## Set operations -/

/-- The devices that are not members yet come behind the members. -/
def joined (members devices : List Endpoint) : List Endpoint := members ++ devices.filter (· ∉ members)

/-- The members that are none of the devices. -/
def without (members devices : List Endpoint) : List Endpoint := members.filter (· ∉ devices)

theorem mem_joined : device ∈ joined members devices ↔ device ∈ members ∨ device ∈ devices := by
  by_cases isMember : device ∈ members <;> simp [joined, isMember]

theorem joined_ne_nil (members : List Endpoint) (some_device : devices ≠ []) : joined members devices ≠ [] := by
  obtain ⟨device, mem⟩ := List.exists_mem_of_ne_nil _ some_device
  exact List.ne_nil_of_mem (mem_joined.mpr (.inr mem))

theorem addAllNew_eq_joined (members : List Endpoint) (once : devices.Nodup) :
    addAllNew members devices = joined members devices := by
  rw [addAllNew_eq, eraseDups_of_nodup (once.filter _), joined]

/-- **To add devices again adds nothing.** -/
theorem joined_joined (members devices : List Endpoint) :
    joined (joined members devices) devices = joined members devices := by
  have nothing : devices.filter (· ∉ joined members devices) = [] :=
    List.filter_eq_nil_iff.mpr fun device mem => by simp [mem_joined, mem]
  rw [joined, nothing, List.append_nil]

/-- **To remove what was added gives back the members**, if none of them was added. -/
theorem without_joined (apart : ∀ device ∈ devices, device ∉ members) :
    without (joined members devices) devices = members := by
  have stay : members.filter (· ∉ devices) = members :=
    List.filter_eq_self.mpr fun device mem => by simpa using fun isDevice => apart device isDevice mem
  have go : (devices.filter (· ∉ members)).filter (· ∉ devices) = [] :=
    List.filter_eq_nil_iff.mpr fun device mem => by simp [(List.mem_filter.mp mem).1]
  rw [without, joined, List.filter_append, stay, go, List.append_nil]

/-- Only the set of the devices counts that are removed. -/
theorem without_congr {more : List Endpoint} (same : ∀ device, device ∈ devices ↔ device ∈ more) :
    without members devices = without members more :=
  List.filter_congr fun device _ => by simp [same]

/-! ## Commands -/

/-- What a group command answers that is about some devices. -/
def regrouped (devices : List Endpoint) (what : String) : Outcome :=
  { answer := .message (Router.counted devices.length what) }

/-- **To add** joins the matched devices to the group. -/
theorem grouping_add (allMatch : backend.Matches specifiers) (some_specifier : specifiers ≠ []) (name : String) :
    ∃ after, runOn (Router.grouping (.add name specifiers)) backend
        = (.ok (regrouped (backend.matched specifiers) ("added to " ++ name)), after)
      ∧ IsGroup name (joined (backend.membersOf name) (backend.matched specifiers)) backend after := by
  refine ⟨{ backend with
    groups := backend.groups.insert name (addAllNew (backend.membersOf name) (backend.matched specifiers)) }, ?_, ?_⟩
  · show runOn (Router.expand specifiers [] >>= _) backend = _
    rw [runOn_bind, runOn_expand allMatch, addAllNew_nil]
    rfl
  · rw [addAllNew_eq_joined _ (nodup_matched specifiers backend)]
    refine ⟨?_, fun other => OrderedMap.get?_insert_ne, rfl⟩
    have some_member := joined_ne_nil (backend.membersOf name) (matched_ne_nil allMatch some_specifier)
    exact (OrderedMap.get?_insert_self ..).trans (if_neg some_member).symm

/-- **To remove** takes the matched devices out of a group that is there. -/
theorem grouping_remove (allMatch : backend.Matches specifiers) (bound : backend.groups.get? name = some members) :
    ∃ after, runOn (Router.grouping (.remove name specifiers)) backend
        = (.ok (regrouped (backend.matched specifiers) ("removed from " ++ name)), after)
      ∧ IsGroup name (without members (backend.matched specifiers)) backend after := by
  refine ⟨{ backend with
    groups := if (without members (backend.matched specifiers)).isEmpty then backend.groups.erase name
      else backend.groups.insert name (without members (backend.matched specifiers)) }, ?_, ?_⟩
  · show runOn (Router.expand specifiers [] >>= _) backend = _
    rw [runOn_bind, runOn_expand allMatch, addAllNew_nil]
    show runOn (Backend.groupRemove name (backend.matched specifiers) >>= _) backend = _
    unfold Backend.groupRemove
    rw [bind_assoc, runOn_get_bind, bound]
    rfl
  · by_cases none : without members (backend.matched specifiers) = []
    · rw [none]
      exact ⟨by simp [OrderedMap.get?_erase], fun other => OrderedMap.get?_erase_ne, rfl⟩
    · rw [if_neg (by simpa using none)]
      refine ⟨?_, fun other => OrderedMap.get?_insert_ne, rfl⟩
      exact (OrderedMap.get?_insert_self ..).trans (if_neg none).symm

theorem grouping_undefined (allMatch : backend.Matches specifiers) (undefined : backend.groups.get? name = none) :
    runOn (Router.grouping (.remove name specifiers)) backend
      = (.error (.execution (.failed (.undefinedGroup name))), backend) := by
  show runOn (Router.expand specifiers [] >>= _) backend = _
  rw [runOn_bind, runOn_expand allMatch]
  show runOn (Backend.groupRemove name _ >>= _) backend = _
  unfold Backend.groupRemove
  rw [bind_assoc, runOn_get_bind, undefined]
  rfl

theorem grouping_unmatched (unmatched : ¬ backend.Matches specifiers) (name : String) :
    ∃ specifier ∈ specifiers, (∀ device, backend.known.contains device = true → ¬ Fits specifier device)
      ∧ ∀ command ∈ [GroupCommand.add name specifiers, .remove name specifiers],
        runOn (Router.grouping command) backend
          = (.error (.execution (.deviceNotFound specifier.toText)), backend) := by
  obtain ⟨specifier, mem, nobody, failed⟩ := runOn_expand_unmatched unmatched []
  refine ⟨specifier, mem, nobody, List.forall_mem_cons.mpr ⟨?_, List.forall_mem_singleton.mpr ?_⟩⟩
  · show runOn (Router.expand specifiers [] >>= _) backend = _
    rw [runOn_bind, failed]
  · show runOn (Router.expand specifiers [] >>= _) backend = _
    rw [runOn_bind, failed]

/-! ## Groups as sets -/

/-- **What it is to add the devices of the specifiers to a group**: they come behind the members, in order; to add them
again changes nothing; neither order nor repetition of the specifiers counts for who is a member; and to remove them
again gives back the whole site, if none of them was a member. -/
structure Backend.Adds (backend : Backend) (name : String) (specifiers : List Specifier) (added : Backend) : Prop where
  group : IsGroup name (joined (backend.membersOf name) (backend.matched specifiers)) backend added
  again : ∀ now, carryOut now (.group (.add name specifiers)) added
    = (.ok (regrouped (backend.matched specifiers) ("added to " ++ name)), added)
  reordered : ∀ now others, (∀ specifier, specifier ∈ others ↔ specifier ∈ specifiers) →
    ∃ outcome alike, carryOut now (.group (.add name others)) backend = (.ok outcome, alike)
      ∧ ∀ device, device ∈ alike.membersOf name ↔ device ∈ added.membersOf name
  undone : (∀ device ∈ backend.matched specifiers, device ∉ backend.membersOf name) →
    ∀ now, carryOut now (.group (.remove name specifiers)) added
      = (.ok (regrouped (backend.matched specifiers) ("removed from " ++ name)), backend)

/-- **What it is to remove the devices of the specifiers from a group**: the other members stay, in order, and the group
is gone exactly if there are none; neither order nor repetition of the specifiers counts. -/
structure Backend.Removes (backend : Backend) (name : String) (specifiers : List Specifier) (removed : Backend) :
    Prop where
  group : IsGroup name (without (backend.membersOf name) (backend.matched specifiers)) backend removed
  reordered : ∀ now others, (∀ specifier, specifier ∈ others ↔ specifier ∈ specifiers) →
    ∃ outcome, carryOut now (.group (.remove name others)) backend = (.ok outcome, removed)

theorem Backend.Matches.reorder (h : backend.Matches specifiers)
    (same : ∀ specifier, specifier ∈ others ↔ specifier ∈ specifiers) :
    backend.Matches others ∧ ∀ device, device ∈ backend.matched others ↔ device ∈ backend.matched specifiers := by
  refine ⟨fun specifier mem => h specifier ((same specifier).mp mem), fun device => ?_⟩
  simp only [mem_matched_iff, same]

theorem carryOut_group (now : Time) (command : GroupCommand) (backend : Backend) :
    carryOut now (.group command) backend = runOn (Router.grouping command) backend := rfl

theorem Backend.Matches.adds (allMatch : backend.Matches specifiers) (sound : backend.Sound devices)
    (some_specifier : specifiers ≠ []) (now : Time) (name : String) :
    ∃ added, carryOut now (.group (.add name specifiers)) backend
        = (.ok (regrouped (backend.matched specifiers) ("added to " ++ name)), added)
      ∧ backend.Adds name specifiers added := by
  obtain ⟨added, ran, group⟩ := grouping_add allMatch some_specifier name
  have stillMatch : added.Matches specifiers := allMatch.congr group.known
  have stillMatched : added.matched specifiers = backend.matched specifiers := matched_congr group.known specifiers
  refine ⟨added, ran, group, fun now => ?_, fun now others same => ?_, fun apart now => ?_⟩
  · obtain ⟨last, ranAgain, again⟩ := grouping_add stillMatch some_specifier name
    rw [stillMatched] at ranAgain again
    rw [group.membersOf, joined_joined] at again
    rw [carryOut_group, ranAgain, again.unique group.self]
  · obtain ⟨othersMatch, sameMatched⟩ := allMatch.reorder same
    have some_other : others ≠ [] := by
      obtain ⟨specifier, mem⟩ := List.exists_mem_of_ne_nil _ some_specifier
      exact List.ne_nil_of_mem ((same specifier).mpr mem)
    obtain ⟨alike, ranOthers, groupOthers⟩ := grouping_add othersMatch some_other name
    refine ⟨_, alike, ranOthers, fun device => ?_⟩
    rw [group.membersOf, groupOthers.membersOf, mem_joined, mem_joined, sameMatched]
  · have some_member := joined_ne_nil (backend.membersOf name) (matched_ne_nil allMatch some_specifier)
    obtain ⟨last, ranBack, back⟩ := grouping_remove stillMatch (group.bound.trans (if_neg some_member))
    rw [stillMatched] at ranBack back
    rw [without_joined apart] at back
    rw [carryOut_group, ranBack, (group.trans back).unique (.refl sound name)]

theorem Backend.Matches.removes (allMatch : backend.Matches specifiers)
    (bound : backend.groups.get? name = some members) (now : Time) :
    ∃ removed, carryOut now (.group (.remove name specifiers)) backend
        = (.ok (regrouped (backend.matched specifiers) ("removed from " ++ name)), removed)
      ∧ backend.Removes name specifiers removed := by
  have isMembers : backend.membersOf name = members := by
    rw [Backend.membersOf, bound]
    rfl
  obtain ⟨removed, ran, group⟩ := grouping_remove allMatch bound
  refine ⟨removed, ran, isMembers ▸ group, fun now others same => ?_⟩
  obtain ⟨othersMatch, sameMatched⟩ := allMatch.reorder same
  obtain ⟨alike, ranOthers, groupOthers⟩ := grouping_remove othersMatch bound
  rw [without_congr sameMatched] at groupOthers
  exact ⟨_, by rw [carryOut_group, ranOthers, groupOthers.unique group]⟩

/-- **Groups are ordered sets.** On every site that lines reach, for every name and all specifiers, at least one: if one
of the specifiers matches no known device, to add and to remove fail with such a specifier and change nothing; to remove
from a group that is not defined fails and changes nothing. Otherwise to add puts the matched devices that are not
members yet behind the members, and to remove leaves the members that are not matched, in order, and no group if there
are none; both answer with the number of matched devices, and leave all else as it is. -/
theorem groups_are_sets {start : Backend} {entries : List DeviceEntry}
    (accepted : Backend.ofEntries entries = .ok start) (reached : Reaches start backend) (now : Time) (name : String)
    (some_specifier : specifiers ≠ []) :
    (¬ backend.Matches specifiers → ∃ specifier ∈ specifiers,
      (∀ device, backend.known.contains device = true → ¬ Fits specifier device)
        ∧ ∀ command ∈ [GroupCommand.add name specifiers, .remove name specifiers],
          carryOut now (.group command) backend
            = (.error (.execution (.deviceNotFound specifier.toText)), backend))
    ∧ (backend.Matches specifiers →
      (∃ added, carryOut now (.group (.add name specifiers)) backend
          = (.ok (regrouped (backend.matched specifiers) ("added to " ++ name)), added)
        ∧ backend.Adds name specifiers added)
      ∧ (backend.groups.get? name = none → carryOut now (.group (.remove name specifiers)) backend
          = (.error (.execution (.failed (.undefinedGroup name))), backend))
      ∧ (backend.groups.get? name ≠ none → ∃ removed, carryOut now (.group (.remove name specifiers)) backend
          = (.ok (regrouped (backend.matched specifiers) ("removed from " ++ name)), removed)
        ∧ backend.Removes name specifiers removed)) := by
  have sound := (sound_of_ofEntries accepted).changes reached.changes
  refine ⟨fun unmatched => grouping_unmatched unmatched name, fun allMatch => ⟨?_, ?_, ?_⟩⟩
  · exact allMatch.adds sound some_specifier now name
  · exact grouping_undefined allMatch
  · intro defined
    obtain ⟨members, bound⟩ := Option.ne_none_iff_exists'.mp defined
    exact allMatch.removes bound now

/-- Two specifiers that both match the first air conditioner. -/
def overlapping : List Specifier := [{ classCode := some ⟨0x0130⟩ }, { ip := some (.v4 ⟨10, 0, 0, 1⟩) }]

/-- A group that is made of both air conditioners has each of them once, and is gone when they are removed. A group that
loses one of them keeps the other one. -/
theorem groups_are_sets_overlapping :
    siteOfGroup.matched overlapping = [airConditioner, secondConditioner]
    ∧ (∃ added, carryOut 3 (.group (.add "@new" overlapping)) siteOfGroup
          = (.ok { answer := .message "2 device(s) added to @new" }, added)
        ∧ added.membersOf "@new" = [airConditioner, secondConditioner]
        ∧ carryOut 4 (.group (.remove "@new" overlapping)) added
          = (.ok { answer := .message "2 device(s) removed from @new" }, siteOfGroup))
    ∧ (∃ removed, carryOut 3 (.group (.remove "@all" overlapping.tail)) siteOfGroup
          = (.ok { answer := .message "1 device(s) removed from @all" }, removed)
        ∧ removed.membersOf "@all" = [secondConditioner])
    ∧ carryOut 3 (.group (.remove "@new" overlapping)) siteOfGroup
      = (.error (.execution (.failed (.undefinedGroup "@new"))), siteOfGroup) := by
  have both : siteOfGroup.matched overlapping = [airConditioner, secondConditioner] := by decide +kernel
  have one : siteOfGroup.matched overlapping.tail = [airConditioner] := by decide +kernel
  have found : ∀ specifier ∈ overlapping, siteOfGroup.findDevices specifier ≠ [] := by decide +kernel
  have allMatch : siteOfGroup.Matches overlapping := fun specifier mem =>
    exists_fits (found specifier mem)
  have tailMatch : siteOfGroup.Matches overlapping.tail := fun specifier mem =>
    allMatch specifier (List.mem_of_mem_tail mem)
  have new : siteOfGroup.groups.get? "@new" = none := by decide +kernel
  have all : siteOfGroup.groups.get? "@all" = some [airConditioner, secondConditioner] := by decide +kernel
  have nobody : siteOfGroup.membersOf "@new" = [] := by rw [Backend.membersOf, new]; rfl
  obtain ⟨⟨added, ranAdd, adds⟩, undefined, -⟩ :=
    (groups_are_sets ofEntries_two reaches_siteOfGroup 3 "@new" (by decide +kernel)).2 allMatch
  obtain ⟨-, -, removal⟩ :=
    (groups_are_sets ofEntries_two reaches_siteOfGroup 3 "@all" (by decide +kernel)).2 tailMatch
  obtain ⟨removed, ranRemove, removes⟩ := removal (by rw [all]; exact nofun)
  have undone := adds.undone (fun device _ => by rw [nobody]; exact List.not_mem_nil) 4
  have left := removes.group.membersOf
  have addedTwo : regrouped [airConditioner, secondConditioner] ("added to " ++ "@new")
      = { answer := .message "2 device(s) added to @new" } := by decide +kernel
  have removedTwo : regrouped [airConditioner, secondConditioner] ("removed from " ++ "@new")
      = { answer := .message "2 device(s) removed from @new" } := by decide +kernel
  have removedOne : regrouped [airConditioner] ("removed from " ++ "@all")
      = { answer := .message "1 device(s) removed from @all" } := by decide +kernel
  rw [both, addedTwo] at ranAdd
  rw [both, removedTwo] at undone
  rw [one, removedOne] at ranRemove
  rw [one] at left
  refine ⟨both, ⟨added, ranAdd, ?_, undone⟩, ⟨removed, ranRemove, left.trans ?_⟩, undefined new⟩
  · rw [adds.group.membersOf, both, nobody]
    rfl
  · rw [Backend.membersOf, all]
    decide +kernel

end DeviceConsole
