import DeviceConsole.Distinct
import DeviceConsole.OrderedMap
import Mathlib.Data.List.Induction
import Mathlib.Data.List.Nodup

/-!
# `Proofs.OrderedMap` — reading a map after a change

A map is read through `get?`, so every change is described by what `get?` gives afterwards. Since the keys ascend,
an entry of the list is what is read at its key (`get?_eq_some_iff`), and a key that is bound already keeps its
place (`keys_insert_of_contains`).

* `insertEntries_perm` — entries with keys of their own are all there, in the order of their keys;
* `insertEntries`, `lookUp_insertEntries`, `keys_insertEntries` — entries with repeated keys;
* `OrderedMap.get?_insert`, `OrderedMap.get?_erase` — one binding changes, the others stay;
* `OrderedMap.get?_eq_some_iff`, `OrderedMap.mem_keys` — entries and keys;
* `OrderedMap.ext_get?` — maps from which the same is read are the same.
-/

namespace DeviceConsole

variable {α β : Type} [OrderKey α] [DecidableEq α]

/-- The binding of a key in a list of entries. -/
def lookUp (entries : List (α × β)) (key : α) : Option β :=
  (entries.find? fun entry => entry.1 = key).map Prod.snd

omit [OrderKey α] in
theorem lookUp_cons (entry : α × β) (entries : List (α × β)) (key : α) :
    lookUp (entry :: entries) key = if entry.1 = key then some entry.2 else lookUp entries key := by
  unfold lookUp
  rw [List.find?_cons]
  by_cases same : entry.1 = key <;> simp [same]

theorem lookUp_insertEntry (key : α) (value : β) (entries : List (α × β)) (other : α) :
    lookUp (insertEntry key value entries) other
      = if other = key then some value else lookUp entries other := by
  induction entries with
  | nil =>
    rw [insertEntry, lookUp_cons]
    by_cases same : other = key
    · rw [if_pos same.symm, if_pos same]
    · rw [if_neg (Ne.symm same), if_neg same]
  | cons entry rest ih =>
    rw [insertEntry]
    by_cases found : entry.1 = key
    · rw [if_pos found, lookUp_cons, lookUp_cons, found]
      by_cases same : other = key
      · rw [if_pos same.symm, if_pos same]
      · rw [if_neg (Ne.symm same), if_neg same, if_neg (Ne.symm same)]
    · rw [if_neg found]
      by_cases first : OrderKey.Before key entry.1
      · rw [if_pos first, lookUp_cons]
        by_cases same : other = key
        · rw [if_pos same.symm, if_pos same]
        · rw [if_neg (Ne.symm same), if_neg same]
      · rw [if_neg first, lookUp_cons, ih, lookUp_cons]
        by_cases same : other = key
        · rw [if_pos same, if_neg (same ▸ found), if_pos same]
        · rw [if_neg same, if_neg same]

omit [OrderKey α] in
theorem lookUp_filter (key : α) (entries : List (α × β)) (other : α) :
    lookUp (entries.filter fun entry => entry.1 ≠ key) other
      = if other = key then none else lookUp entries other := by
  induction entries with
  | nil => by_cases same : other = key <;> simp [lookUp, same]
  | cons entry rest ih =>
    by_cases removed : entry.1 = key
    · rw [List.filter_cons_of_neg (by simp [removed]), ih, lookUp_cons, removed]
      by_cases same : other = key
      · rw [if_pos same, if_pos same]
      · rw [if_neg same, if_neg same, if_neg (Ne.symm same)]
    · rw [List.filter_cons_of_pos (by simp [removed]), lookUp_cons, ih, lookUp_cons]
      by_cases same : other = key
      · rw [if_pos same, if_neg (same ▸ removed), if_pos same]
      · rw [if_neg same, if_neg same]

omit [DecidableEq α] in
/-- In ascending entries no key stands twice. -/
theorem Ascending.ne_of_mem {entry other : α × β} {rest : List (α × β)} (h : Ascending (entry :: rest))
    (mem : other ∈ rest) : entry.1 ≠ other.1 := by
  intro same
  have before := (List.pairwise_cons.mp h).1 other mem
  rw [same] at before
  exact OrderKey.not_before_self _ before

theorem lookUp_of_mem {entries : List (α × β)} (h : Ascending entries) {key : α} {value : β}
    (mem : (key, value) ∈ entries) : lookUp entries key = some value := by
  induction entries with
  | nil => cases mem
  | cons entry rest ih =>
    rw [lookUp_cons]
    rcases List.mem_cons.mp mem with rfl | later
    · rw [if_pos rfl]
    · rw [if_neg (h.ne_of_mem later)]
      exact ih (List.pairwise_cons.mp h).2 later

/-- A key that is bound already keeps its place. -/
theorem keys_insertEntry {key : α} {value : β} {entries : List (α × β)} (h : Ascending entries)
    (bound : key ∈ entries.map Prod.fst) :
    (insertEntry key value entries).map Prod.fst = entries.map Prod.fst := by
  induction entries with
  | nil => cases bound
  | cons entry rest ih =>
    obtain ⟨before, tail⟩ := List.pairwise_cons.mp h
    rw [insertEntry]
    by_cases found : entry.1 = key
    · rw [if_pos found, List.map_cons, List.map_cons, found]
    · have later : key ∈ rest.map Prod.fst :=
        (List.mem_cons.mp bound).resolve_left fun same => found same.symm
      have notFirst : ¬ OrderKey.Before key entry.1 := by
        intro first
        obtain ⟨other, mem, same⟩ := List.mem_map.mp later
        exact OrderKey.not_before_self _ (first.trans (same ▸ before other mem))
      rw [if_neg found, if_neg notFirst, List.map_cons, List.map_cons, ih tail later]

/-- A key that is not bound gets an entry of its own. -/
theorem insertEntry_perm {key : α} {entries : List (α × β)} (value : β) (absent : key ∉ entries.map Prod.fst) :
    (insertEntry key value entries).Perm ((key, value) :: entries) := by
  induction entries with
  | nil => exact .refl _
  | cons entry rest ih =>
    rw [List.map_cons, List.mem_cons, not_or] at absent
    rw [insertEntry, if_neg (Ne.symm absent.1)]
    by_cases first : OrderKey.Before key entry.1
    · rw [if_pos first]
    · rw [if_neg first]
      exact ((ih absent.2).cons entry).trans (.swap _ _ _)

/-- **Entries with keys of their own are all there**, whatever order they are put in. -/
theorem insertEntries_perm {entries : List (α × β)} :
    ∀ start : List (α × β), ((start ++ entries).map Prod.fst).Nodup →
      (entries.foldl (fun entries entry => insertEntry entry.1 entry.2 entries) start).Perm (start ++ entries) := by
  induction entries with
  | nil =>
    intro start _
    rw [List.append_nil]
    exact .refl start
  | cons entry rest ih =>
    intro start distinct
    have forward : (start ++ entry :: rest).Perm ((entry :: start) ++ rest) := List.perm_middle
    have keys : (((entry :: start) ++ rest).map Prod.fst).Nodup := (forward.map Prod.fst).nodup_iff.mp distinct
    have absent : entry.1 ∉ start.map Prod.fst := by
      intro mem
      rw [List.cons_append, List.map_cons, List.map_append, List.nodup_cons] at keys
      exact keys.1 (List.mem_append_left _ mem)
    have added : (insertEntry entry.1 entry.2 start ++ rest).Perm ((entry :: start) ++ rest) :=
      (insertEntry_perm entry.2 absent).append_right rest
    refine (ih _ ((added.map Prod.fst).nodup_iff.mpr keys)).trans ?_
    exact added.trans forward.symm

/-! ## Repeated keys -/

omit [OrderKey α] in
theorem mem_of_lookUp {entries : List (α × β)} {key : α} {value : β} (found : lookUp entries key = some value) :
    (key, value) ∈ entries := by
  obtain ⟨entry, first, rfl⟩ := Option.map_eq_some_iff.mp found
  have same : entry.1 = key := by simpa using List.find?_some first
  rw [← same]
  exact List.mem_of_find?_eq_some first

omit [OrderKey α] in
theorem mem_keys_iff {entries : List (α × β)} {key : α} :
    key ∈ entries.map Prod.fst ↔ ∃ value, lookUp entries key = some value := by
  constructor
  · intro mem
    obtain ⟨entry, inEntries, rfl⟩ := List.mem_map.mp mem
    refine Option.isSome_iff_exists.mp ?_
    rw [lookUp, Option.isSome_map, List.find?_isSome]
    exact ⟨entry, inEntries, decide_eq_true rfl⟩
  · rintro ⟨value, found⟩
    exact List.mem_map_of_mem (mem_of_lookUp found)

/-- Entries put one after the other: of a repeated key the last value stays. -/
def insertEntries (entries : List (α × β)) : List (α × β) :=
  entries.foldl (fun entries entry => insertEntry entry.1 entry.2 entries) []

theorem ascending_insertEntries (entries : List (α × β)) : Ascending (insertEntries entries) := by
  unfold insertEntries
  induction entries using List.reverseRecOn with
  | nil => exact List.Pairwise.nil
  | append_singleton front entry ih =>
    rw [List.foldl_concat]
    exact ascending_insertEntry ih

/-- **Of a repeated key the last value stays.** -/
theorem lookUp_insertEntries (entries : List (α × β)) (key : α) :
    lookUp (insertEntries entries) key = lookUp entries.reverse key := by
  unfold insertEntries
  induction entries using List.reverseRecOn with
  | nil => rfl
  | append_singleton front entry ih =>
    rw [List.foldl_concat, lookUp_insertEntry, ih, List.reverse_concat, lookUp_cons]
    by_cases same : key = entry.1
    · rw [if_pos same, if_pos same.symm]
    · rw [if_neg same, if_neg (Ne.symm same)]

/-- Nothing else is there than what was put in. -/
theorem mem_of_mem_insertEntries {entries : List (α × β)} {entry : α × β} (mem : entry ∈ insertEntries entries) :
    entry ∈ entries := by
  have found : lookUp (insertEntries entries) entry.1 = some entry.2 :=
    lookUp_of_mem (ascending_insertEntries entries) mem
  rw [lookUp_insertEntries] at found
  exact List.mem_reverse.mp (mem_of_lookUp found)

/-- **If entries with the same key are the same**, they are all there. -/
theorem mem_insertEntries {entries : List (α × β)}
    (steady : ∀ entry ∈ entries, ∀ other ∈ entries, entry.1 = other.1 → entry = other) {entry : α × β} :
    entry ∈ insertEntries entries ↔ entry ∈ entries := by
  constructor
  · exact mem_of_mem_insertEntries
  · intro mem
    obtain ⟨value, found⟩ := mem_keys_iff.mp (List.mem_map_of_mem (List.mem_reverse.mpr mem))
    have same := steady _ mem _ (List.mem_reverse.mp (mem_of_lookUp found)) rfl
    rw [same]
    refine mem_of_lookUp ?_
    rw [lookUp_insertEntries, found]

namespace OrderedMap

variable {map : OrderedMap α β} {key other : α} {value : β}

/-- **An insertion changes one binding.** -/
theorem get?_insert (map : OrderedMap α β) (key : α) (value : β) (other : α) :
    (map.insert key value).get? other = if other = key then some value else map.get? other :=
  lookUp_insertEntry key value map.entries other

theorem get?_insert_self (map : OrderedMap α β) (key : α) (value : β) :
    (map.insert key value).get? key = some value := by
  rw [get?_insert, if_pos rfl]

theorem get?_insert_ne (ne : other ≠ key) : (map.insert key value).get? other = map.get? other := by
  rw [get?_insert, if_neg ne]

/-- **A removal removes one binding.** -/
theorem get?_erase (map : OrderedMap α β) (key other : α) :
    (map.erase key).get? other = if other = key then none else map.get? other :=
  lookUp_filter key map.entries other

theorem get?_erase_ne (ne : other ≠ key) : (map.erase key).get? other = map.get? other := by
  rw [get?_erase, if_neg ne]

theorem get?_eq_some_iff : map.get? key = some value ↔ (key, value) ∈ map.entries := by
  constructor
  · exact mem_of_lookUp
  · exact lookUp_of_mem map.ascending

theorem contains_iff : map.contains key = true ↔ ∃ value, map.get? key = some value :=
  Option.isSome_iff_exists

theorem mem_keys : key ∈ map.keys ↔ map.contains key = true := by
  rw [contains_iff, keys, List.mem_map]
  constructor
  · rintro ⟨⟨_, value⟩, mem, rfl⟩
    exact ⟨value, get?_eq_some_iff.mpr mem⟩
  · rintro ⟨value, h⟩
    exact ⟨(key, value), get?_eq_some_iff.mp h, rfl⟩

theorem contains_insert (map : OrderedMap α β) (key : α) (value : β) (other : α) :
    (map.insert key value).contains other = true ↔ other = key ∨ map.contains other = true := by
  unfold contains
  rw [get?_insert]
  by_cases same : other = key
  · simp [same]
  · simp [same]

omit [DecidableEq α] in
/-- No key is bound twice. -/
theorem nodup_keys (map : OrderedMap α β) : map.keys.Nodup := by
  refine List.pairwise_map.mpr (List.Pairwise.imp ?_ map.ascending)
  intro a b before same
  rw [same] at before
  exact OrderKey.not_before_self _ before

theorem keys_insert_of_contains (bound : map.contains key = true) : (map.insert key value).keys = map.keys :=
  keys_insertEntry map.ascending (mem_keys.mpr bound)

/-- **A map is what is read from it.** -/
theorem ext_get? {first second : OrderedMap α β} (same : ∀ key, first.get? key = second.get? key) :
    first = second := by
  have nodup : ∀ map : OrderedMap α β, map.entries.Nodup := fun map => map.nodup_keys.of_map Prod.fst
  have perm : first.entries.Perm second.entries :=
    (List.perm_ext_iff_of_nodup (nodup first) (nodup second)).mpr fun entry => by
      rw [← get?_eq_some_iff, ← get?_eq_some_iff, same]
  refine OrderedMap.ext (perm.eq_of_pairwise ?_ first.ascending second.ascending)
  intro entry other _ _ before behind
  exact absurd (before.trans behind) (OrderKey.not_before_self _)

/-- To bind a key to its value again changes nothing. -/
theorem insert_of_get? (bound : map.get? key = some value) : map.insert key value = map := by
  refine ext_get? fun other => ?_
  rw [get?_insert]
  by_cases same : other = key
  · rw [if_pos same, same, bound]
  · rw [if_neg same]

end OrderedMap

/-- Each key has one entry. -/
theorem keys_insertEntries (entries : List (α × β)) :
    ((insertEntries entries).map Prod.fst).Perm (entries.map Prod.fst).eraseDups := by
  have once : ((insertEntries entries).map Prod.fst).Nodup :=
    OrderedMap.nodup_keys ⟨insertEntries entries, ascending_insertEntries entries⟩
  refine (List.perm_ext_iff_of_nodup once (nodup_eraseDups _)).mpr fun key => ?_
  have backwards : key ∈ entries.map Prod.fst ↔ key ∈ entries.reverse.map Prod.fst := by
    rw [List.map_reverse, List.mem_reverse]
  rw [List.mem_eraseDups, backwards, mem_keys_iff, mem_keys_iff, lookUp_insertEntries]

end DeviceConsole
