import DeviceConsole.Proofs.Backend.Sound

/-!
# `Proofs.Backend.Coherent` — the cache tells what the network holds

A writing changes the network and the cache one after the other, and a reading adds to a cache that may hold less
than the device has. Of a repeated code only the first entry is ever found, on either side, so this entry is what
has to agree.

* `Agrees` — every value that is found in one list is found in another;
* `Agrees.answered`, `Agrees.written` — a reading and a writing keep it;
* `Backend.Coherent` — every cache agrees with the network, and no change of the site breaks this.
-/

namespace DeviceConsole

open Device (Endpoint Epc Property assignAll findEpc? findEpc?_assignAll findEpc?_replaceValues mem_of_findEpc?
  replaceValues)

/-! ## Lists that agree -/

/-- What is found in the first list is found in the second one. -/
def Agrees (cached onNetwork : List Property) : Prop :=
  ∀ epc property, findEpc? epc cached = some property → findEpc? epc onNetwork = some property

namespace Agrees

variable {cached onNetwork : List Property}

theorem refl (properties : List Property) : Agrees properties properties := fun _ _ => id

theorem nil (onNetwork : List Property) : Agrees [] onNetwork := fun epc property found => by cases found

/-- An answer is made of what was found on the network, so the cache may take it over. -/
theorem answered (h : Agrees cached onNetwork) (epcs : List Epc) :
    Agrees (assignAll (epcs.filterMap fun epc => findEpc? epc onNetwork) cached) onNetwork := by
  intro epc property found
  rw [findEpc?_assignAll, Option.or_eq_some_iff] at found
  rcases found with inAnswer | ⟨-, inCache⟩
  · obtain ⟨mem, same⟩ := mem_of_findEpc? inAnswer
    obtain ⟨asked, -, onDevice⟩ := List.mem_filterMap.mp (List.mem_reverse.mp mem)
    rwa [← (mem_of_findEpc? onDevice).2, same] at onDevice
  · exact h epc property inCache

/-- A writing of supported codes gives both lists the same last value. -/
theorem written (h : Agrees cached onNetwork) {properties : List Property}
    (supported : ∀ wanted ∈ properties, (findEpc? wanted.epc onNetwork).isSome = true) :
    Agrees (assignAll properties cached) (replaceValues properties onNetwork) := by
  intro epc property found
  rw [findEpc?_assignAll, Option.or_eq_some_iff] at found
  rw [findEpc?_replaceValues]
  rcases found with wanted | ⟨notWanted, inCache⟩
  · obtain ⟨mem, same⟩ := mem_of_findEpc? wanted
    obtain ⟨old, onDevice⟩ := Option.isSome_iff_exists.mp (supported property (List.mem_reverse.mp mem))
    rw [← same, onDevice, same, wanted]
    rfl
  · rw [h epc property inCache, notWanted]
    rfl

end Agrees

/-! ## The invariant -/

/-- **A coherent site**: every known device is on the network, and its cache agrees with what the network has. -/
def Backend.Coherent (backend : Backend) : Prop :=
  ∀ device known, backend.known.get? device = some known →
    ∃ onNetwork, backend.network.get? device = some onNetwork ∧ Agrees known.properties onNetwork

namespace Backend.Coherent

variable {backend after : Backend}

/-- The cache of a device agrees with the network also if the device is not known: then it is empty. -/
theorem cacheOf (h : backend.Coherent) {device : Endpoint} {onNetwork : List Property}
    (reached : backend.network.get? device = some onNetwork) : Agrees (backend.cacheOf device) onNetwork := by
  unfold Backend.cacheOf
  cases found : backend.known.get? device with
  | none => exact .nil onNetwork
  | some known =>
    obtain ⟨own, reachedOwn, agrees⟩ := h device known found
    rw [reached] at reachedOwn
    cases reachedOwn
    exact agrees

theorem change (h : backend.Coherent) (changed : Change backend after) : after.Coherent := by
  intro device known found
  cases changed with
  | cached fresh =>
    rcases get?_cacheAll found with before | mem
    · exact h device known before
    · exact ⟨known.properties, fresh _ mem, .refl _⟩
  | @read other onNetwork epcs now reached supported =>
    by_cases same : device = other
    · subst same
      rw [OrderedMap.get?_insert_self] at found
      cases found
      exact ⟨onNetwork, reached, (h.cacheOf reached).answered epcs⟩
    · rw [OrderedMap.get?_insert_ne same] at found
      exact h device known found
  | @written other old onNetwork properties now isKnown reached supported =>
    by_cases same : device = other
    · subst same
      rw [OrderedMap.get?_insert_self] at found
      cases found
      obtain ⟨own, reachedOwn, agrees⟩ := h device old isKnown
      rw [reached] at reachedOwn
      cases reachedOwn
      exact ⟨_, OrderedMap.get?_insert_self .., agrees.written supported⟩
    · rw [OrderedMap.get?_insert_ne same] at found
      obtain ⟨own, reachedOwn, agrees⟩ := h device known found
      exact ⟨own, (OrderedMap.get?_insert_ne same).trans reachedOwn, agrees⟩
  | _ => exact h device known found

/-- **No number of changes breaks coherence.** -/
theorem changes (h : backend.Coherent) (changed : Changes backend after) : after.Coherent :=
  changed.keeps (fun last before => before.change last) h

end Backend.Coherent

end DeviceConsole
