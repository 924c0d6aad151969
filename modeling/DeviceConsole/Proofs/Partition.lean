import DeviceConsole.Format.Documents
import DeviceConsole.Proofs.Command.Shown
import DeviceConsole.Proofs.Members
import DeviceConsole.Proofs.OrderedMap

/-!
# `Proofs.Partition` — a listing under keys

A listing that groups by a property code puts each row under the value that is cached for this code. The rows are put
one after the other behind those with the same key, so the listing under keys is the plain listing cut into parts:
what one more row keeps of this (`Partition.addRow`), all rows keep.

* `Partition` — rows under keys against the same rows in a list;
* `partition_present` — the parts of a listing;
* `partition_of_listing` — a listing with keys and the same listing without, for any site and any command, and their
  JSON documents.
-/

namespace DeviceConsole

open Device (ClassCode Criteria Endpoint Epc Property edtText findEpc?)
open Device.PropertyTable (Shown classes common describeValue exists_value_of_mem shown_describeValue)
open Format (deviceDocument devicesDocument document)
open Router (addRow deviceRow groupKey present shownEpcs)

/-! ## Rows under keys -/

/-- Rows under keys hold the rows of a list: none is lost and none is there twice, those under a key are the ones
with this key in their order, and the keys differ and stand in the order of their first rows. -/
structure Partition (key : DeviceRow → String) (rows : List DeviceRow)
    (groups : List (String × List DeviceRow)) : Prop where
  perm : (groups.flatMap Prod.snd).Perm rows
  own : ∀ group ∈ groups, group.2 = rows.filter fun row => key row = group.1
  keys : ∀ name, name ∈ groups.map Prod.fst ↔ name ∈ rows.map key
  distinct : (groups.map Prod.fst).Nodup
  firsts : (groups.map Prod.fst).Pairwise fun one other => (rows.map key).idxOf one < (rows.map key).idxOf other

section AddRow

variable {key : DeviceRow → String} {rows : List DeviceRow} {groups : List (String × List DeviceRow)}

/-- A row with a new key comes last. -/
theorem addRow_of_not_mem {name : String} (row : DeviceRow) (absent : name ∉ groups.map Prod.fst) :
    addRow name row groups = groups ++ [(name, [row])] := by
  induction groups with
  | nil => rfl
  | cons first rest ih =>
    rw [List.map_cons, List.mem_cons, not_or] at absent
    rw [addRow, if_neg (Ne.symm absent.1), ih absent.2, List.cons_append]

theorem keys_addRow_of_not_mem {name : String} (row : DeviceRow) (absent : name ∉ groups.map Prod.fst) :
    (addRow name row groups).map Prod.fst = groups.map Prod.fst ++ [name] := by
  rw [addRow_of_not_mem row absent, List.map_append]
  rfl

/-- A row with a key that is there leaves the keys as they are. -/
theorem keys_addRow_of_mem {name : String} (row : DeviceRow) (present : name ∈ groups.map Prod.fst) :
    (addRow name row groups).map Prod.fst = groups.map Prod.fst := by
  induction groups with
  | nil => cases present
  | cons first rest ih =>
    rw [addRow]
    by_cases same : first.1 = name
    · rw [if_pos same, List.map_cons, List.map_cons, same]
    · have later : name ∈ rest.map Prod.fst := (List.mem_cons.mp present).resolve_left (Ne.symm same)
      rw [if_neg same, List.map_cons, List.map_cons, ih later]

/-- The rows under a key are those before, and the new one behind them if it has this key. -/
theorem rows_of_mem_addRow {name : String} {row : DeviceRow} (distinct : (groups.map Prod.fst).Nodup)
    {group : String × List DeviceRow} (mem : group ∈ addRow name row groups) :
    group ∈ groups ∧ name ≠ group.1
    ∨ (name = group.1 ∧ ∃ before, (name, before) ∈ groups ∧ group.2 = before ++ [row])
    ∨ (name ∉ groups.map Prod.fst ∧ group = (name, [row])) := by
  induction groups with
  | nil =>
    right; right
    exact ⟨List.not_mem_nil, List.mem_singleton.mp mem⟩
  | cons first rest ih =>
    rw [List.map_cons, List.nodup_cons] at distinct
    rw [addRow] at mem
    by_cases same : first.1 = name
    · rw [if_pos same] at mem
      rcases List.mem_cons.mp mem with rfl | later
      · right; left
        exact ⟨rfl, first.2, same ▸ List.mem_cons_self, rfl⟩
      · left
        refine ⟨List.mem_cons_of_mem _ later, ?_⟩
        intro clash
        exact distinct.1 (same ▸ clash ▸ List.mem_map_of_mem later)
    · rw [if_neg same] at mem
      rcases List.mem_cons.mp mem with rfl | later
      · left
        exact ⟨List.mem_cons_self, Ne.symm same⟩
      · rcases ih distinct.2 later with ⟨there, other⟩ | ⟨own, before, there, behind⟩ | ⟨absent, alone⟩
        · left
          exact ⟨List.mem_cons_of_mem _ there, other⟩
        · right; left
          exact ⟨own, before, List.mem_cons_of_mem _ there, behind⟩
        · right; right
          refine ⟨?_, alone⟩
          rw [List.map_cons, List.mem_cons, not_or]
          exact ⟨Ne.symm same, absent⟩

/-- **One more row keeps a partition.** -/
theorem Partition.addRow (h : Partition key rows groups) (row : DeviceRow) :
    Partition key (rows ++ [row]) (addRow (key row) row groups) := by
  constructor
  case perm => exact (flatMap_addRow_perm _ _ _).trans (h.perm.append_right _)
  case own =>
    intro group mem
    rw [List.filter_append]
    rcases rows_of_mem_addRow h.distinct mem with ⟨there, other⟩ | ⟨own, before, there, behind⟩ | ⟨absent, rfl⟩
    · rw [← h.own group there]
      simp [other]
    · have old : before = rows.filter fun other => key other = group.1 := by
        rw [← own]
        exact h.own _ there
      rw [behind, old]
      simp [own]
    · have none : rows.filter (fun other => key other = key row) = [] := by
        apply List.filter_eq_nil_iff.mpr
        intro other mem
        rw [decide_eq_true_eq]
        intro same
        exact absent ((h.keys _).mpr (same ▸ List.mem_map_of_mem mem))
      rw [none]
      simp
  case keys =>
    intro name
    rw [List.map_append, List.mem_append, ← h.keys]
    by_cases present : key row ∈ groups.map Prod.fst
    · rw [keys_addRow_of_mem row present]
      constructor
      · exact .inl
      · rintro (there | last)
        · exact there
        · exact List.mem_singleton.mp last ▸ present
    · rw [keys_addRow_of_not_mem row present, List.mem_append]
      rfl
  case distinct =>
    by_cases present : key row ∈ groups.map Prod.fst
    · rw [keys_addRow_of_mem row present]
      exact h.distinct
    · rw [keys_addRow_of_not_mem row present]
      refine List.nodup_append.mpr ⟨h.distinct, List.nodup_singleton _, ?_⟩
      intro one mem other last same
      rw [List.mem_singleton] at last
      exact present (last ▸ same ▸ mem)
  case firsts =>
    have earlier : (groups.map Prod.fst).Pairwise fun one other =>
        ((rows ++ [row]).map key).idxOf one < ((rows ++ [row]).map key).idxOf other := by
      refine h.firsts.imp_of_mem ?_
      intro one other isKey isOther before
      rw [List.map_append, List.idxOf_append_of_mem ((h.keys one).mp isKey),
        List.idxOf_append_of_mem ((h.keys other).mp isOther)]
      exact before
    by_cases present : key row ∈ groups.map Prod.fst
    · rw [keys_addRow_of_mem row present]
      exact earlier
    · rw [keys_addRow_of_not_mem row present]
      refine List.pairwise_append.mpr ⟨earlier, List.pairwise_singleton _ _, ?_⟩
      intro one isKey other last
      have isRow : one ∈ rows.map key := (h.keys one).mp isKey
      have notRow : key row ∉ rows.map key := mt (h.keys _).mpr present
      have new : other = key row := List.mem_singleton.mp last
      -- an old key is found among the rows before, a new one at their end
      rw [new, List.map_append, List.idxOf_append_of_mem isRow, List.idxOf_append_of_notMem notRow]
      exact Nat.lt_add_right _ (List.idxOf_lt_length_iff.mpr isRow)

/-- Rows that are put under their keys one after the other are a partition of these rows. -/
theorem Partition.addRows {α : Type} {name : α → String} {row : α → DeviceRow} {items : List α}
    (named : ∀ item ∈ items, name item = key (row item)) (h : Partition key rows groups) :
    Partition key (rows ++ items.map row)
      (items.foldl (fun groups item => Router.addRow (name item) (row item) groups) groups) := by
  induction items generalizing rows groups with
  | nil =>
    rw [List.map_nil, List.append_nil]
    exact h
  | cons item rest ih =>
    have first : Partition key (rows ++ [row item]) (Router.addRow (name item) (row item) groups) := by
      rw [named item List.mem_cons_self]
      exact h.addRow (row item)
    have all := ih (fun other mem => named other (List.mem_cons_of_mem _ mem)) first
    rwa [List.append_assoc] at all

theorem partition_nil : Partition key [] [] := by
  constructor
  case perm => exact .refl []
  case own => exact fun group mem => absurd mem List.not_mem_nil
  case keys => exact fun name => Iff.rfl
  case distinct => exact List.nodup_nil
  case firsts => exact List.Pairwise.nil

end AddRow

/-! ## The parts of a listing -/

/-- The value that is cached for a code of a device, as it is shown; `(none)` if there is none. -/
def Backend.keyOf (backend : Backend) (epc : Epc) (device : Endpoint) : String :=
  match findEpc? epc (backend.cacheOf device) with
  | some property => describeValue device.eoj.classCode property
  | none => "(none)"

variable {backend : Backend}

/-- **No value is shown as `(none)`**: no name of the table is this text, and no hexadecimal digit is a bracket. -/
theorem describeValue_ne_none (classCode : ClassCode) (property : Property) :
    describeValue classCode property ≠ "(none)" := by
  have table : ∀ description ∈ classes.flatMap Device.PropertyTable.ClassDescription.properties ++ common,
      ∀ value ∈ description.values, value.1 ≠ "(none)" := by decide
  have digits : ∀ digit < 16, Text.Hex.digitChar digit ≠ '(' := by decide
  have shown := shown_describeValue classCode property
  generalize describeValue classCode property = text at shown ⊢
  cases shown with
  | named mem stands =>
    obtain ⟨description, listed, value, inValues, same⟩ := exists_value_of_mem mem
    rw [← same]
    exact table description listed value inValues
  | hex none =>
    intro same
    have chars : Text.Hex.writeBytes property.edt = "(none)".toList := by
      rw [← same, edtText, String.toList_ofList]
    have bracket : '(' ∈ Text.Hex.writeBytes property.edt := by
      rw [chars]
      decide
    obtain ⟨digit, small, isDigit⟩ := Text.Hex.mem_writeBytes bracket
    exact digits digit small isDigit.symm

/-- A device has the key `(none)` exactly if nothing is cached for the code. -/
theorem keyOf_eq_none_iff (backend : Backend) (epc : Epc) (device : Endpoint) :
    backend.keyOf epc device = "(none)" ↔ findEpc? epc (backend.cacheOf device) = none := by
  rw [Backend.keyOf]
  cases findEpc? epc (backend.cacheOf device) with
  | none => simp
  | some property => simp [describeValue_ne_none]

/-- What a listing tells of a device is what is cached of it. -/
theorem cacheOf_of_listed {criteria : Criteria} {snapshot : Snapshot} (mem : snapshot ∈ backend.listDevices criteria) :
    backend.cacheOf snapshot.device = snapshot.properties := by
  obtain ⟨known, found, told⟩ := mem_listDevices mem
  rw [told, Backend.cacheOf, found]
  rfl

theorem groupKey_of_listed {criteria : Criteria} {snapshot : Snapshot}
    (mem : snapshot ∈ backend.listDevices criteria) (epc : Epc) :
    groupKey epc snapshot = backend.keyOf epc snapshot.device := by
  rw [groupKey, Backend.keyOf, cacheOf_of_listed mem]
  cases findEpc? epc snapshot.properties with
  | none => rfl
  | some property => rfl

/-- **The parts of a listing**: with a code to group by, its rows stand under the values that are cached for it. -/
theorem partition_present (command : DevicesCommand) {snapshots : List Snapshot} {criteria : Criteria}
    (listed : snapshots.Sublist (backend.listDevices criteria)) (epc : Epc) :
    ∃ groups, present { command with groupBy := some epc } snapshots = .grouped epc groups
      ∧ Partition (fun row => backend.keyOf epc row.device)
          (snapshots.map fun snapshot => deviceRow snapshot (shownEpcs command snapshot)) groups := by
  refine ⟨_, rfl, ?_⟩
  have named : ∀ snapshot ∈ snapshots, groupKey epc snapshot
      = backend.keyOf epc (deviceRow snapshot (shownEpcs command snapshot)).device := by
    intro snapshot mem
    exact groupKey_of_listed (listed.subset mem) epc
  exact partition_nil.addRows named

/-! ## Documents -/

/-- The items of a document that is an array. -/
def Json.Value.items : Json.Value → List Json.Value
  | .array items => items
  | _ => []

/-- An object with names that differ has all its members, in the order of their names. -/
theorem sorted_eq_record {members : List (String × Json.Value)} (distinct : (members.map Prod.fst).Nodup) :
    ∃ ordered, Json.Value.sorted members = .record ordered ∧ ordered.Perm members :=
  ⟨_, rfl, insertEntries_perm [] distinct⟩

/-- **The document of rows under keys loses no row**: it has one member for each key, and the rows of all members are
those of the plain listing. -/
theorem document_of_partition {key : DeviceRow → String} {rows : List DeviceRow}
    {groups : List (String × List DeviceRow)} (h : Partition key rows groups) (epc : Epc) :
    ∃ members, document (.grouped epc groups)
        = .record [("group_by", .ofText epc.toText), ("groups", .record members)]
      ∧ (members.map Prod.fst).Perm (groups.map Prod.fst)
      ∧ (members.flatMap fun member => member.2.items).Perm (document (.devices rows)).items := by
  have names : ((groups.map fun group => (group.1, devicesDocument group.2)).map Prod.fst) = groups.map Prod.fst := by
    rw [List.map_map]
    rfl
  obtain ⟨members, same, ordered⟩ := sorted_eq_record (names ▸ h.distinct)
  refine ⟨members, ?_, ?_, ?_⟩
  · have order : ¬ OrderKey.Before "groups" "group_by" := by decide
    rw [document, same, Json.Value.sorted]
    simp [insertEntry, order]
  · exact names ▸ ordered.map Prod.fst
  · have parts : (groups.map fun group => (group.1, devicesDocument group.2)).flatMap (fun member => member.2.items)
        = (groups.flatMap Prod.snd).map deviceDocument := by
      rw [List.flatMap_map, List.map_flatMap]
      rfl
    refine (ordered.flatMap_right _).trans ?_
    rw [parts]
    exact h.perm.map deviceDocument

/-! ## Listings -/

/-- **A listing under keys is the plain listing cut into parts**: on any site a listing that groups by a code and the
same listing without leave the site as it is, and fail with the same error or have the same rows, each device once,
and tell the same number of devices. The key of a device is the value that is cached for the code, as it is shown,
and it is `(none)` exactly if there is none. No device is lost in the document of the listing. -/
theorem partition_of_listing (now : Time) (command : DevicesCommand) (epc : Epc) (backend : Backend) :
    ∃ plain grouped, carryOut now (.devices { command with groupBy := none }) backend = (plain, backend)
      ∧ carryOut now (.devices { command with groupBy := some epc }) backend = (grouped, backend)
      ∧ ((∃ error, plain = .error error ∧ grouped = .error error)
        ∨ ∃ rows groups, plain = .ok { answer := .devices rows, devices := rows.length }
          ∧ grouped = .ok { answer := .grouped epc groups, devices := rows.length }
          ∧ (rows.map DeviceRow.device).Nodup
          ∧ Partition (fun row => backend.keyOf epc row.device) rows groups
          ∧ (∀ row ∈ rows, backend.keyOf epc row.device = "(none)"
              ↔ findEpc? epc (backend.cacheOf row.device) = none)
          ∧ ∃ members, document (.grouped epc groups)
              = .record [("group_by", .ofText epc.toText), ("groups", .record members)]
            ∧ (members.map Prod.fst).Nodup
            ∧ (members.flatMap fun member => member.2.items).Perm (document (.devices rows)).items) := by
  have plain := runOn_listing { command with groupBy := none } backend
  have grouped := runOn_listing { command with groupBy := some epc } backend
  have same (by_ : Option Epc) : Router.listed { command with groupBy := by_ } = Router.listed command := rfl
  rw [same] at plain grouped
  rcases listed_cases command backend with ⟨snapshots, criteria, ran, listed⟩ | ⟨error, ran⟩
  · rw [ran] at plain grouped
    obtain ⟨groups, shown, parts⟩ := partition_present command listed epc
    obtain ⟨members, written, names, all⟩ := document_of_partition parts epc
    have once : ((snapshots.map fun snapshot => deviceRow snapshot (shownEpcs command snapshot)).map
        DeviceRow.device).Nodup := by
      rw [List.map_map]
      exact (nodup_listDevices criteria backend).sublist (listed.map Snapshot.device)
    refine ⟨_, _, plain, grouped, .inr ⟨_, groups, ?_, ?_, once, parts, ?_, members, written, ?_, all⟩⟩
    · rw [List.length_map]
      rfl
    · rw [List.length_map, shown]
    · intro row _
      exact keyOf_eq_none_iff backend epc row.device
    · exact names.nodup_iff.mpr parts.distinct
  · rw [ran] at plain grouped
    exact ⟨_, _, plain, grouped, .inl ⟨error, rfl, rfl⟩⟩

end DeviceConsole
