import DeviceConsole.Device.Property
import Mathlib.Data.List.Forall2

/-!
# `Proofs.Device.Properties` — lists of properties after a change of values

A change of values leaves the codes of a list where they are, and an assignment adds at most the codes that it
names. Of the values only the first one of a code is ever found; after several changes this is the one that the
last of them gives, and the list of the changes is therefore read from its end.

* `mem_epcs_iff` — a code is in a list exactly if it is found there;
* `epcs_replaceValues` — a replacement keeps the codes, in order;
* `mem_epcs_assignAll`, `nodup_epcs_assignAll` — the codes after several assignments;
* `findEpc?_assignAll`, `findEpc?_replaceValues` — what is found of a code after several changes;
* `findEpc?_answered`, `forall₂_answer` — what is found of a code in an answer, and what an answer is;
* `Revalued`, `revalued_replaceValues` — a replacement touches nothing but the values of first entries;
* `replaceValues_of_settled`, `assignAll_of_settled` — changes whose last values are there already.
-/

namespace DeviceConsole.Device

variable {epc : Epc} {properties : List Property}

theorem mem_of_findEpc? {property : Property} (h : findEpc? epc properties = some property) :
    property ∈ properties ∧ property.epc = epc :=
  ⟨List.mem_of_find?_eq_some h, by simpa using List.find?_some h⟩

/-- A code is in a list exactly if it is found there. -/
theorem mem_epcs_iff : epc ∈ properties.map Property.epc ↔ (findEpc? epc properties).isSome = true := by
  unfold findEpc?
  rw [List.find?_isSome, List.mem_map]
  constructor
  · rintro ⟨property, mem, same⟩
    exact ⟨property, mem, by simpa using same⟩
  · rintro ⟨property, mem, same⟩
    exact ⟨property, mem, by simpa using same⟩

theorem epcs_replaceValue (wanted : Property) (properties : List Property) :
    (replaceValue wanted properties).map Property.epc = properties.map Property.epc := by
  induction properties with
  | nil => rfl
  | cons property rest ih =>
    rw [replaceValue]
    by_cases found : property.epc = wanted.epc
    · rw [if_pos found]
      rfl
    · rw [if_neg found, List.map_cons, List.map_cons, ih]

/-- A replacement keeps the codes, in order. -/
theorem epcs_replaceValues (wanted properties : List Property) :
    (replaceValues wanted properties).map Property.epc = properties.map Property.epc := by
  induction wanted generalizing properties with
  | nil => rfl
  | cons first rest ih =>
    show (replaceValues rest (replaceValue first properties)).map Property.epc = _
    rw [ih, epcs_replaceValue]

theorem mem_epcs_assign (wanted : Property) :
    epc ∈ (assign wanted properties).map Property.epc
      ↔ epc = wanted.epc ∨ epc ∈ properties.map Property.epc := by
  induction properties with
  | nil => simp [assign]
  | cons property rest ih =>
    rw [assign]
    by_cases found : property.epc = wanted.epc
    · rw [if_pos found, List.map_cons, List.map_cons, List.mem_cons, found]
      exact ⟨Or.inr, fun h => h.elim Or.inl id⟩
    · rw [if_neg found, List.map_cons, List.map_cons, List.mem_cons, List.mem_cons, ih]
      exact or_left_comm

/-- After assignments a list has its codes and the assigned ones. -/
theorem mem_epcs_assignAll (wanted : List Property) :
    epc ∈ (assignAll wanted properties).map Property.epc
      ↔ epc ∈ wanted.map Property.epc ∨ epc ∈ properties.map Property.epc := by
  induction wanted generalizing properties with
  | nil => simp [assignAll]
  | cons first rest ih =>
    show epc ∈ (assignAll rest (assign first properties)).map Property.epc ↔ _
    rw [ih, mem_epcs_assign, List.map_cons, List.mem_cons, or_assoc]
    exact or_left_comm

theorem nodup_epcs_assign (wanted : Property) (distinct : (properties.map Property.epc).Nodup) :
    ((assign wanted properties).map Property.epc).Nodup := by
  induction properties with
  | nil => exact List.pairwise_singleton _ _
  | cons property rest ih =>
    rw [assign]
    by_cases found : property.epc = wanted.epc
    · rwa [if_pos found]
    · obtain ⟨once, distinctRest⟩ := List.nodup_cons.mp distinct
      rw [if_neg found, List.map_cons]
      refine List.nodup_cons.mpr ⟨fun mem => ?_, ih distinctRest⟩
      rcases (mem_epcs_assign wanted).mp mem with same | later
      · exact found same
      · exact once later

/-- Assignments repeat no code. -/
theorem nodup_epcs_assignAll (wanted : List Property) (distinct : (properties.map Property.epc).Nodup) :
    ((assignAll wanted properties).map Property.epc).Nodup := by
  induction wanted generalizing properties with
  | nil => exact distinct
  | cons first rest ih => exact ih (nodup_epcs_assign first distinct)

/-! ## Values -/

theorem findEpc?_cons (property : Property) (properties : List Property) :
    findEpc? epc (property :: properties) = if property.epc = epc then some property else findEpc? epc properties := by
  unfold findEpc?
  rw [List.find?_cons]
  by_cases found : property.epc = epc <;> simp [found]

theorem findEpc?_append (front back : List Property) :
    findEpc? epc (front ++ back) = (findEpc? epc front).or (findEpc? epc back) :=
  List.find?_append

/-- A change of the value at a code gives the wanted property. -/
theorem revalued_eq {property wanted : Property} (same : property.epc = wanted.epc) :
    { property with edt := wanted.edt } = wanted := by
  cases property
  cases wanted
  cases same
  rfl

theorem findEpc?_assign (wanted : Property) (properties : List Property) :
    findEpc? epc (assign wanted properties) = if wanted.epc = epc then some wanted else findEpc? epc properties := by
  induction properties with
  | nil => exact findEpc?_cons wanted []
  | cons property rest ih =>
    rw [assign]
    by_cases found : property.epc = wanted.epc
    · rw [if_pos found, revalued_eq found, findEpc?_cons, findEpc?_cons, found]
      by_cases same : wanted.epc = epc <;> simp [same]
    · rw [if_neg found, findEpc?_cons, ih, findEpc?_cons]
      by_cases same : wanted.epc = epc
      · rw [if_pos same, if_neg (same ▸ found), if_pos same]
      · rw [if_neg same, if_neg same]

theorem findEpc?_replaceValue (wanted : Property) (properties : List Property) :
    findEpc? epc (replaceValue wanted properties)
      = if wanted.epc = epc then (findEpc? epc properties).map fun _ => wanted else findEpc? epc properties := by
  induction properties with
  | nil => by_cases same : wanted.epc = epc <;> simp [replaceValue, findEpc?, same]
  | cons property rest ih =>
    rw [replaceValue]
    by_cases found : property.epc = wanted.epc
    · rw [if_pos found, revalued_eq found, findEpc?_cons, findEpc?_cons, found]
      by_cases same : wanted.epc = epc <;> simp [same]
    · rw [if_neg found, findEpc?_cons, ih, findEpc?_cons]
      by_cases same : wanted.epc = epc
      · rw [if_pos same, if_neg (same ▸ found), if_pos same, if_neg (same ▸ found)]
      · rw [if_neg same, if_neg same]

/-- Of several assignments to a code the last one is found. -/
theorem findEpc?_assignAll (wanted properties : List Property) :
    findEpc? epc (assignAll wanted properties)
      = (findEpc? epc wanted.reverse).or (findEpc? epc properties) := by
  induction wanted generalizing properties with
  | nil => rfl
  | cons first rest ih =>
    show findEpc? epc (assignAll rest (assign first properties)) = _
    rw [ih, findEpc?_assign, List.reverse_cons, findEpc?_append, findEpc?_cons, Option.or_assoc]
    by_cases same : first.epc = epc <;> simp [same, findEpc?]

/-- Of several replacements at a code that is there the last one is found. -/
theorem findEpc?_replaceValues (wanted properties : List Property) :
    findEpc? epc (replaceValues wanted properties)
      = (findEpc? epc properties).map fun old => (findEpc? epc wanted.reverse).getD old := by
  induction wanted generalizing properties with
  | nil => simp [replaceValues, findEpc?]
  | cons first rest ih =>
    show findEpc? epc (replaceValues rest (replaceValue first properties)) = _
    rw [ih, findEpc?_replaceValue, List.reverse_cons, findEpc?_append, findEpc?_cons]
    by_cases same : first.epc = epc
    · simp [same, Option.map_map, Function.comp_def]
    · simp [same, findEpc?]

/-- Of an answer, made of what was found of each code, the asked codes are found again, and no other code. -/
theorem findEpc?_answer (epcs : List Epc) (properties : List Property) :
    findEpc? epc (epcs.filterMap fun asked => findEpc? asked properties).reverse
      = if epc ∈ epcs then findEpc? epc properties else none := by
  induction epcs with
  | nil => rfl
  | cons asked rest ih =>
    cases found : findEpc? asked properties with
    | none =>
      rw [List.filterMap_cons, found]
      show findEpc? epc (rest.filterMap fun asked => findEpc? asked properties).reverse = _
      rw [ih]
      by_cases same : epc = asked
      · subst same
        rw [found, if_pos List.mem_cons_self]
        exact ite_self none
      · simp only [List.mem_cons, same, false_or]
    | some property =>
      have code : property.epc = asked := (mem_of_findEpc? found).2
      rw [List.filterMap_cons, found]
      show findEpc? epc (property :: rest.filterMap fun asked => findEpc? asked properties).reverse = _
      rw [List.reverse_cons, findEpc?_append, ih, findEpc?_cons, code]
      by_cases same : asked = epc
      · subst same
        rw [found, if_pos rfl, if_pos List.mem_cons_self]
        by_cases again : asked ∈ rest <;> simp [again]
      · have ne : epc ≠ asked := Ne.symm same
        simp only [if_neg same, List.mem_cons, ne, false_or]
        exact Option.or_none

/-- An answer has of each asked code what the device has. -/
theorem findEpc?_answered {epcs : List Epc} (asked : epc ∈ epcs) (held : List Property) :
    findEpc? epc (epcs.filterMap fun epc => findEpc? epc held) = findEpc? epc held := by
  have answer := @findEpc?_answer epc epcs.reverse held
  rwa [List.filterMap_reverse, List.reverse_reverse, if_pos (List.mem_reverse.mpr asked)] at answer

/-- An answer has for each asked code, in order, what is found of it. -/
theorem forall₂_answer {epcs : List Epc} (found : ∀ epc ∈ epcs, (findEpc? epc properties).isSome = true) :
    List.Forall₂ (fun epc property => findEpc? epc properties = some property) epcs
      (epcs.filterMap fun epc => findEpc? epc properties) := by
  induction epcs with
  | nil => exact .nil
  | cons epc rest ih =>
    obtain ⟨property, first⟩ := Option.isSome_iff_exists.mp (found epc List.mem_cons_self)
    rw [List.filterMap_cons, first]
    exact .cons first (ih fun other mem => found other (List.mem_cons_of_mem _ mem))

/-! ## Entries -/

/-- The entries stand where they stood with the same codes, and an entry with another value is the first one of
one of the given codes. -/
def Revalued (epcs : List Epc) (before after : List Property) : Prop :=
  after.map Property.epc = before.map Property.epc
  ∧ ∀ (place : Nat) (old new : Property), before[place]? = some old → after[place]? = some new → new ≠ old →
      old.epc ∈ epcs ∧ ∀ (earlier : Nat) (other : Property), earlier < place → before[earlier]? = some other →
        other.epc ≠ old.epc

namespace Revalued

variable {epcs : List Epc} {before middle after : List Property}

theorem refl (properties : List Property) : Revalued epcs properties properties := by
  refine ⟨rfl, fun place old new stood stands changed => ?_⟩
  rw [stood] at stands
  exact absurd (Option.some.inj stands).symm changed

/-- An entry stands at each place where one stood, with the same code. -/
theorem exists_getElem? (h : Revalued epcs before after) {place : Nat} {old : Property}
    (stood : before[place]? = some old) : ∃ new, after[place]? = some new ∧ new.epc = old.epc := by
  have codes : after[place]?.map Property.epc = before[place]?.map Property.epc := by
    rw [← List.getElem?_map, ← List.getElem?_map, h.1]
  rw [stood] at codes
  exact Option.map_eq_some_iff.mp codes

theorem trans (first : Revalued epcs before middle) (second : Revalued epcs middle after) :
    Revalued epcs before after := by
  refine ⟨second.1.trans first.1, fun place old new stood stands changed => ?_⟩
  obtain ⟨between, standsBetween, code⟩ := first.exists_getElem? stood
  by_cases same : between = old
  · subst same
    obtain ⟨named, front⟩ := second.2 place between new standsBetween stands changed
    refine ⟨named, fun earlier other less stoodEarlier => ?_⟩
    obtain ⟨atEarlier, standsEarlier, sameCode⟩ := first.exists_getElem? stoodEarlier
    exact sameCode ▸ front earlier atEarlier less standsEarlier
  · exact first.2 place old between stood standsBetween same

/-- What was changed may be changed back. -/
theorem symm (h : Revalued epcs before after) : Revalued epcs after before := by
  have codes : ∀ place : Nat, before[place]?.map Property.epc = after[place]?.map Property.epc := by
    intro place
    rw [← List.getElem?_map, ← List.getElem?_map, h.1]
  refine ⟨h.1.symm, fun place new old stands stood changed => ?_⟩
  obtain ⟨named, front⟩ := h.2 place old new stood stands changed.symm
  have code : old.epc = new.epc := by simpa [stood, stands] using codes place
  rw [← code]
  refine ⟨named, fun earlier other less standsEarlier => ?_⟩
  have there := codes earlier
  rw [standsEarlier] at there
  obtain ⟨first, stoodEarlier, sameCode⟩ := Option.map_eq_some_iff.mp there
  exact sameCode ▸ front earlier first less stoodEarlier

theorem mono {more : List Epc} (h : Revalued epcs before after) (sub : ∀ epc ∈ epcs, epc ∈ more) :
    Revalued more before after := by
  refine ⟨h.1, fun place old new stood stands changed => ?_⟩
  obtain ⟨named, front⟩ := h.2 place old new stood stands changed
  exact ⟨sub _ named, front⟩

end Revalued

theorem revalued_replaceValue (wanted : Property) (properties : List Property) :
    Revalued [wanted.epc] properties (replaceValue wanted properties) := by
  refine ⟨epcs_replaceValue wanted properties, ?_⟩
  induction properties with
  | nil => intro place old new stood; cases stood
  | cons property rest ih =>
    rw [replaceValue]
    intro place old new stood stands changed
    by_cases found : property.epc = wanted.epc
    -- this entry is the first one of the code, and the rest stays
    · rw [if_pos found] at stands
      cases place with
      | zero =>
        cases stood
        exact ⟨List.mem_singleton.mpr found, fun earlier other less => absurd less (Nat.not_lt_zero _)⟩
      | succ place =>
        rw [List.getElem?_cons_succ] at stood stands
        rw [stood] at stands
        exact absurd (Option.some.inj stands).symm changed
    · rw [if_neg found] at stands
      cases place with
      | zero =>
        cases stood
        cases stands
        exact absurd rfl changed
      | succ place =>
        rw [List.getElem?_cons_succ] at stood stands
        obtain ⟨named, front⟩ := ih place old new stood stands changed
        refine ⟨named, fun earlier other less stoodEarlier => ?_⟩
        cases earlier with
        | zero =>
          cases stoodEarlier
          rwa [List.mem_singleton.mp named]
        | succ earlier =>
          exact front earlier other (Nat.lt_of_succ_lt_succ less) (by rwa [List.getElem?_cons_succ] at stoodEarlier)

/-- **A replacement touches nothing but the values of the first entries of the given codes.** -/
theorem revalued_replaceValues (wanted properties : List Property) :
    Revalued (wanted.map Property.epc) properties (replaceValues wanted properties) := by
  induction wanted generalizing properties with
  | nil => exact .refl properties
  | cons first rest ih =>
    show Revalued _ properties (replaceValues rest (replaceValue first properties))
    refine ((revalued_replaceValue first properties).mono ?_).trans ((ih _).mono ?_)
    · intro epc named
      rw [List.mem_singleton.mp named]
      exact List.mem_cons_self
    · exact fun epc named => List.mem_cons_of_mem _ named

/-! ## Changes that are there already -/

/-- The entry at the first place of its code is what is found of the code. -/
theorem findEpc?_of_first {place : Nat} {property : Property} (stands : properties[place]? = some property)
    (front : ∀ (earlier : Nat) (other : Property), earlier < place → properties[earlier]? = some other →
      other.epc ≠ property.epc) :
    findEpc? property.epc properties = some property := by
  obtain ⟨inside, rfl⟩ := List.getElem?_eq_some_iff.mp stands
  refine List.find?_eq_some_iff_getElem.mpr ⟨decide_eq_true rfl, place, inside, rfl, fun earlier less => ?_⟩
  simpa using front earlier _ less (List.getElem?_eq_getElem (Nat.lt_trans less inside))

/-- **Where only values of first entries changed, and what is found is the same, nothing changed.** -/
theorem Revalued.eq_of_findEpc? {epcs : List Epc} {before after : List Property} (h : Revalued epcs before after)
    (same : ∀ epc, findEpc? epc after = findEpc? epc before) : after = before := by
  have length : after.length = before.length := by simpa using congrArg List.length h.1
  refine List.ext_getElem? fun place => ?_
  cases stood : before[place]? with
  | none =>
    rw [List.getElem?_eq_none_iff] at stood ⊢
    rwa [length]
  | some old =>
    obtain ⟨new, stands, code⟩ := h.exists_getElem? stood
    rw [stands]
    by_contra changed
    have ne : new ≠ old := fun eq => changed (congrArg some eq)
    -- both entries are the first ones of their code, so both are found
    have oldFound := findEpc?_of_first stood (h.2 place old new stood stands ne).2
    have newFound := findEpc?_of_first stands (h.symm.2 place new old stands stood ne.symm).2
    rw [code, same, oldFound] at newFound
    exact changed newFound.symm

/-- The last value of each code is there. -/
def Settled (wanted properties : List Property) : Prop :=
  ∀ epc property, findEpc? epc wanted.reverse = some property → findEpc? epc properties = some property

theorem settled_assignAll (wanted properties : List Property) : Settled wanted (assignAll wanted properties) := by
  intro epc property last
  rw [findEpc?_assignAll, last]
  rfl

/-- What is found before replacements is found after them, perhaps with another value. -/
theorem isSome_findEpc?_replaceValues (wanted : List Property) (present : epc ∈ properties.map Property.epc) :
    (findEpc? epc (replaceValues wanted properties)).isSome = true := by
  rwa [← mem_epcs_iff, epcs_replaceValues]

/-- Replacements of codes that are there leave the last values. -/
theorem settled_replaceValues {wanted : List Property}
    (present : ∀ property ∈ wanted, (findEpc? property.epc properties).isSome = true) :
    Settled wanted (replaceValues wanted properties) := by
  intro epc property last
  obtain ⟨mem, code⟩ := mem_of_findEpc? last
  obtain ⟨old, found⟩ := Option.isSome_iff_exists.mp (present property (List.mem_reverse.mp mem))
  rw [code] at found
  rw [findEpc?_replaceValues, found, last]
  rfl

/-- A list in which the last values are takes over an answer of another one without losing them. -/
theorem Settled.answered {wanted cached : List Property} (inCache : Settled wanted cached)
    (onDevice : Settled wanted properties) (epcs : List Epc) :
    Settled wanted (assignAll (epcs.filterMap fun epc => findEpc? epc properties) cached) := by
  intro epc property last
  rw [findEpc?_assignAll, findEpc?_answer, inCache epc property last]
  by_cases asked : epc ∈ epcs
  · rw [if_pos asked, onDevice epc property last]
    rfl
  · rw [if_neg asked]
    rfl

/-- Replacements whose last values are there change nothing, though values in between may be others. -/
theorem replaceValues_of_settled {wanted : List Property} (settled : Settled wanted properties) :
    replaceValues wanted properties = properties := by
  refine (revalued_replaceValues wanted properties).eq_of_findEpc? fun epc => ?_
  rw [findEpc?_replaceValues]
  cases last : findEpc? epc wanted.reverse with
  | none => cases findEpc? epc properties <;> rfl
  | some property =>
    rw [settled epc property last]
    rfl

theorem assign_eq_replaceValue {wanted : Property} (present : wanted.epc ∈ properties.map Property.epc) :
    assign wanted properties = replaceValue wanted properties := by
  induction properties with
  | nil => cases present
  | cons property rest ih =>
    rw [assign, replaceValue]
    by_cases found : property.epc = wanted.epc
    · rw [if_pos found, if_pos found]
    · have later : wanted.epc ∈ rest.map Property.epc :=
        (List.mem_cons.mp present).resolve_left fun same => found same.symm
      rw [if_neg found, if_neg found, ih later]

/-- Assignments to codes that are there are replacements. -/
theorem assignAll_eq_replaceValues {wanted : List Property}
    (present : ∀ property ∈ wanted, property.epc ∈ properties.map Property.epc) :
    assignAll wanted properties = replaceValues wanted properties := by
  induction wanted generalizing properties with
  | nil => rfl
  | cons first rest ih =>
    show assignAll rest (assign first properties) = replaceValues rest (replaceValue first properties)
    rw [assign_eq_replaceValue (present first List.mem_cons_self)]
    refine ih fun property mem => ?_
    rw [epcs_replaceValue]
    exact present property (List.mem_cons_of_mem _ mem)

/-- Assignments whose last values are there change nothing. -/
theorem assignAll_of_settled {wanted : List Property} (settled : Settled wanted properties) :
    assignAll wanted properties = properties := by
  rw [assignAll_eq_replaceValues, replaceValues_of_settled settled]
  intro property mem
  obtain ⟨last, found⟩ := Option.isSome_iff_exists.mp
    (mem_epcs_iff.mp (List.mem_map_of_mem (f := Property.epc) (List.mem_reverse.mpr mem)))
  rw [mem_epcs_iff, settled _ last found]
  rfl

end DeviceConsole.Device
