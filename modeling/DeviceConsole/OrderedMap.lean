/-!
# `OrderedMap` — finite maps in ascending key order

A map is a list of entries whose keys strictly ascend, so two maps with the same entries are equal and every
listing comes out in key order. The order of a key type is given by an injective key of numbers, compared
lexicographically.

## Contents

* `OrderKey`, `OrderKey.sort` — the order of a key type;
* `OrderedMap` — the maps, with `get?`, `insert`, `erase`, `keys` and `modify`;
* `insertEntry`, `pairwise_insertEntry` — insertion keeps the keys ascending.
-/

namespace DeviceConsole

/-! ## The order of keys -/

/-- An injective key of numbers; the lexicographic order of these keys is the order of the type. -/
class OrderKey (α : Type) where
  key : α → List Nat
  key_injective : ∀ {a b : α}, key a = key b → a = b

/-- The strict order of a type with an order key. -/
def OrderKey.Before {α : Type} [OrderKey α] (a b : α) : Prop := OrderKey.key a < OrderKey.key b

instance {α : Type} [OrderKey α] (a b : α) : Decidable (OrderKey.Before a b) :=
  inferInstanceAs (Decidable (OrderKey.key a < OrderKey.key b))

/-- A list in ascending order. -/
def OrderKey.sort {α : Type} [OrderKey α] (items : List α) : List α :=
  items.mergeSort fun a b => !decide (OrderKey.Before b a)

/-- Texts are ordered by their code points. -/
instance : OrderKey String where
  key text := text.toList.map Char.toNat
  key_injective {a b} h := by
    have chars : a.toList = b.toList :=
      List.map_inj_right (fun x y e => Char.toNat_inj.mp e) |>.mp h
    exact String.toList_inj.mp chars

/-! ## Entries -/

variable {α β : Type} [OrderKey α] [DecidableEq α]

/-- Puts an entry at its place, in the stead of an entry with the same key. -/
def insertEntry (key : α) (value : β) : List (α × β) → List (α × β)
  | [] => [(key, value)]
  | entry :: rest =>
    if entry.1 = key then (key, value) :: rest
    else if OrderKey.Before key entry.1 then (key, value) :: entry :: rest
    else entry :: insertEntry key value rest

/-- The entries of a list strictly ascend by key. -/
def Ascending (entries : List (α × β)) : Prop :=
  entries.Pairwise fun a b => OrderKey.Before a.1 b.1

omit [DecidableEq α] in
theorem OrderKey.before_of_not_before {a b : α} (ne : a ≠ b) (h : ¬ OrderKey.Before b a) :
    OrderKey.Before a b :=
  Std.lt_of_le_of_ne (Std.not_lt.mp h) fun eq => ne (OrderKey.key_injective eq)

omit [DecidableEq α] in
theorem OrderKey.Before.trans {a b c : α} (ab : OrderKey.Before a b) (bc : OrderKey.Before b c) :
    OrderKey.Before a c := List.lt_trans ab bc

omit [DecidableEq α] in
theorem OrderKey.not_before_self (a : α) : ¬ OrderKey.Before a a := List.lt_irrefl _

theorem mem_insertEntry {key : α} {value : β} {entries : List (α × β)} {entry : α × β}
    (h : entry ∈ insertEntry key value entries) : entry = (key, value) ∨ entry ∈ entries := by
  induction entries with
  | nil => simpa [insertEntry] using h
  | cons head rest ih =>
    simp only [insertEntry] at h
    split at h
    · rcases List.mem_cons.mp h with h | h
      · exact Or.inl h
      · exact Or.inr (List.mem_cons_of_mem _ h)
    · split at h
      · rcases List.mem_cons.mp h with h | h
        · exact Or.inl h
        · exact Or.inr h
      · rcases List.mem_cons.mp h with h | h
        · exact Or.inr (h ▸ List.mem_cons_self)
        · exact (ih h).imp id (List.mem_cons_of_mem _)

/-- Insertion keeps the keys ascending. -/
theorem ascending_insertEntry {key : α} {value : β} {entries : List (α × β)}
    (h : Ascending entries) : Ascending (insertEntry key value entries) := by
  induction entries with
  | nil => simp [insertEntry, Ascending]
  | cons head rest ih =>
    obtain ⟨before, tail⟩ := List.pairwise_cons.mp h
    simp only [insertEntry]
    split
    · next eq => exact List.pairwise_cons.mpr ⟨fun e he => eq ▸ before e he, tail⟩
    · next ne =>
      split
      · next lt =>
        refine List.pairwise_cons.mpr ⟨fun e he => ?_, h⟩
        rcases List.mem_cons.mp he with rfl | he
        · exact lt
        · exact lt.trans (before e he)
      · next ge =>
        refine List.pairwise_cons.mpr ⟨fun e he => ?_, ih tail⟩
        rcases mem_insertEntry he with rfl | he
        · exact OrderKey.before_of_not_before ne ge
        · exact before e he

/-! ## Maps -/

/-- A finite map: entries with strictly ascending keys. -/
structure OrderedMap (α β : Type) [OrderKey α] where
  entries : List (α × β)
  ascending : Ascending entries

namespace OrderedMap

/-- The map without entries. -/
def empty : OrderedMap α β := ⟨[], List.Pairwise.nil⟩

instance : Inhabited (OrderedMap α β) := ⟨empty⟩

/-- The value bound to a key. -/
def get? (map : OrderedMap α β) (key : α) : Option β :=
  (map.entries.find? fun entry => entry.1 = key).map Prod.snd

/-- Whether a key is bound. -/
def contains (map : OrderedMap α β) (key : α) : Bool := (map.get? key).isSome

/-- The keys, in ascending order. -/
def keys (map : OrderedMap α β) : List α := map.entries.map Prod.fst

/-- Binds a key to a value. -/
def insert (map : OrderedMap α β) (key : α) (value : β) : OrderedMap α β :=
  ⟨insertEntry key value map.entries, ascending_insertEntry map.ascending⟩

/-- Removes the binding of a key. -/
def erase (map : OrderedMap α β) (key : α) : OrderedMap α β :=
  ⟨map.entries.filter fun entry => entry.1 ≠ key, map.ascending.filter _⟩

/-- The number of bindings. -/
def size (map : OrderedMap α β) : Nat := map.entries.length

omit [DecidableEq α] in
@[ext]
theorem ext {a b : OrderedMap α β} (h : a.entries = b.entries) : a = b := by
  cases a; cases b; cases h; rfl

end OrderedMap

end DeviceConsole
