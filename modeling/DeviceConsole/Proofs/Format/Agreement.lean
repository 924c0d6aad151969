import DeviceConsole.Proofs.Echo
import DeviceConsole.Proofs.Format.Facts
import DeviceConsole.Proofs.Format.Texts

/-!
# `Proofs.Format.Agreement` — all forms of an answer tell the same

The table shows the first value of a repeated code, JSON the last one and compact lines all of them. The forms agree all
the same, because of what can be in a row: whatever command made it, of each device it shows the first value of a code
in *one* list — the cache for a listing, the network for a reading, the request for a writing. So a code that is asked
twice is answered twice alike, and so it is if the device has a second row.

* `ShowsFirst` — rows of first values; `showsFirst_listing`, `showsFirst_reading`, `showsFirst_writing` — the three
  commands give such rows, on any site;
* `SameStory` — what the table, the JSON document and the compact lines of rows have in common;
* `ShowsFirst.sameStory` — rows of first values are told the same in each form;
* `formats_agree` — so is every listing that a command answers with;
* `Printed`, `answers_printed` — its text is the grid, the document or the compact lines, and tells what the rows tell.
-/

namespace DeviceConsole

open Device (Endpoint Epc Property findEpc? findEpc?_answered mem_of_findEpc?)
open Format
open Router (deviceRow)

/-! ## Rows of first values -/

/-- Rows that show of every device first values of one list. -/
def ShowsFirst (held : Endpoint → List Property) (rows : List DeviceRow) : Prop :=
  ∀ row ∈ rows, ∀ shown ∈ row.properties, ∃ property,
    findEpc? property.epc (held row.device) = some property
      ∧ shown = propertyRow row.device.eoj.classCode property

section ShowsFirst

variable {held : Endpoint → List Property} {rows : List DeviceRow}

theorem ShowsFirst.subset {others : List DeviceRow} (h : ShowsFirst held rows) (sub : others ⊆ rows) :
    ShowsFirst held others := fun row mem => h row (sub mem)

/-- The row of what is told of a device shows first values of it. -/
theorem showsFirst_deviceRow {snapshots : List Snapshot} {epcs : Snapshot → List Epc}
    (told : ∀ snapshot ∈ snapshots, ∀ property, findEpc? property.epc snapshot.properties = some property →
      findEpc? property.epc (held snapshot.device) = some property) :
    ShowsFirst held (snapshots.map fun snapshot => deviceRow snapshot (epcs snapshot)) := by
  intro row inRows shown inRow
  obtain ⟨snapshot, mem, rfl⟩ := List.mem_map.mp inRows
  obtain ⟨property, found, rfl⟩ := mem_deviceRow inRow
  exact ⟨property, told snapshot mem property found, rfl⟩

theorem ShowsFirst.plain (h : ShowsFirst held rows) : ∀ row ∈ rows, row.Plain := by
  intro row inRows shown inRow
  obtain ⟨property, -, rfl⟩ := h row inRows shown inRow
  exact whole_describeValue row.device.eoj.classCode property

/-- **What is shown of a device for a code is the same wherever it is shown.** -/
theorem ShowsFirst.eq_of_epc (h : ShowsFirst held rows) {row other : DeviceRow} (inRows : row ∈ rows)
    (otherInRows : other ∈ rows) (device : row.device = other.device) {shown again : PropertyRow}
    (inRow : shown ∈ row.properties) (inOther : again ∈ other.properties) (code : shown.epc = again.epc) :
    shown = again := by
  obtain ⟨property, found, rfl⟩ := h row inRows shown inRow
  obtain ⟨property', found', rfl⟩ := h other otherInRows again inOther
  have sameCode : property.epc = property'.epc := code
  rw [device, sameCode, found'] at found
  rw [device, Option.some.inj found]

theorem ShowsFirst.steady (h : ShowsFirst held rows) : ∀ row ∈ rows, row.Steady :=
  fun _ inRows _ inRow _ inOther code => h.eq_of_epc inRows inRows rfl inRow inOther code

/-- **No device has two values for a code**, also as texts. -/
theorem ShowsFirst.single (h : ShowsFirst held rows) {fact other : Fact} (told : fact ∈ factsOf rows)
    (otherTold : other ∈ factsOf rows) (ip : fact.ip = other.ip) (eoj : fact.eoj = other.eoj)
    (epc : fact.epc = other.epc) : fact = other := by
  obtain ⟨row, inRows, shown, inRow, rfl⟩ := mem_factsOf.mp told
  obtain ⟨row', inRows', shown', inRow', rfl⟩ := mem_factsOf.mp otherTold
  have device : row.device = row'.device := Endpoint.eq_of_texts ip eoj
  have same := h.eq_of_epc inRows inRows' device inRow inRow' (Epc.toText_injective epc)
  rw [DeviceRow.fact, DeviceRow.fact, device, same]

end ShowsFirst

/-! ## The rows of commands -/

section Commands

variable {backend after : Backend} {now : Time} {outcome : Outcome}

/-- A listing shows first values of the caches. -/
theorem showsFirst_listing (command : DevicesCommand) {snapshots : List Snapshot}
    (cached : ∀ snapshot ∈ snapshots, ∃ criteria, snapshot ∈ backend.listDevices criteria) :
    ShowsFirst backend.cacheOf (Router.present command snapshots).rows := by
  intro row inRows shown inRow
  obtain ⟨snapshot, mem, rfl⟩ := mem_rows_present inRows
  obtain ⟨criteria, listed⟩ := cached snapshot mem
  obtain ⟨property, found, rfl⟩ := mem_deviceRow inRow
  refine ⟨property, ?_, rfl⟩
  show findEpc? property.epc (backend.cacheOf snapshot.device) = some property
  rwa [cacheOf_of_listed listed]

/-- A reading shows first values of the network. -/
theorem showsFirst_reading {command : GetCommand}
    (ran : runOn (Router.reading now command) backend = (.ok outcome, after)) :
    (∃ rows, outcome.answer = .devices rows)
      ∧ ShowsFirst (fun device => (backend.network.get? device).getD []) outcome.answer.rows := by
  obtain ⟨devices, snapshots, -, -, runs, rfl⟩ := runs_of_ok ran
  refine ⟨⟨_, rfl⟩, showsFirst_deviceRow fun snapshot mem property found => ?_⟩
  rw [runs.readings.told] at mem
  obtain ⟨device, isDevice, rfl⟩ := List.mem_map.mp mem
  obtain ⟨onNetwork, reached⟩ := Option.ne_none_iff_exists'.mp (runs.readings.offers device isDevice).answers
  rw [Backend.answerOf_eq reached] at found ⊢
  -- the device answered with first values, and the row has the first of these
  have asked : property.epc ∈ command.epcs := by
    obtain ⟨epc, inEpcs, first⟩ := List.mem_filterMap.mp (mem_of_findEpc? found).1
    exact (mem_of_findEpc? first).2 ▸ inEpcs
  rw [findEpc?_answered asked] at found
  show findEpc? property.epc ((backend.holding device).onNetwork.getD []) = some property
  rw [reached]
  exact found

/-- A writing shows first values of what was wanted. -/
theorem showsFirst_writing {command : SetCommand}
    (ran : runOn (Router.writing now command) backend = (.ok outcome, after)) :
    (∃ rows, outcome.answer = .devices rows) ∧ ShowsFirst (fun _ => command.properties) outcome.answer.rows := by
  obtain ⟨devices, snapshots, -, -, runs, rfl⟩ := runs_of_ok ran
  refine ⟨⟨_, rfl⟩, showsFirst_deviceRow fun snapshot mem property found => ?_⟩
  rw [runs.answers.1] at mem
  obtain ⟨device, -, rfl⟩ := List.mem_map.mp mem
  exact found

end Commands

/-! ## One story in three forms -/

/-- The table, the JSON document and the compact lines of rows tell the same. -/
structure SameStory (rows : List DeviceRow) : Prop where
  /-- Every record of the table is as long as the header. -/
  aligned : ∀ record ∈ (deviceGrid rows).records, record.length = (deviceGrid rows).header.length
  leading : (deviceGrid rows).header.take 3 = ["IP", "EOJ", "Alias"]
  /-- The columns behind these are the codes in the order of first appearance. -/
  columns : (deviceGrid rows).codes = (columnsOf rows).map Epc.toText
  /-- A cell has the value that the row shows for the code; it is empty if the row does not have the code. -/
  cells : ∀ (line column : Nat) (row : DeviceRow) (epc : Epc), rows[line]? = some row →
    (columnsOf rows)[column]? = some epc →
    ∃ record cell, (deviceGrid rows).records[line]? = some record ∧ record[3 + column]? = some cell
      ∧ ((epc ∉ row.epcs ∧ cell = "") ∨ ∃ shown ∈ row.properties, shown.epc = epc ∧ cell = shown.value)
  /-- The JSON object of a row has one property for each code. -/
  entries : ∀ (line : Nat) (row : DeviceRow), rows[line]? = some row →
    ∃ item members, (document (.devices rows)).items[line]? = some item
      ∧ item.member? "properties" = some (.record members)
      ∧ (members.map Prod.fst).Perm (row.epcs.eraseDups.map Epc.toText)
  /-- Compact lines tell what the rows tell, in order. -/
  compact : compactFacts (compact (.devices rows)) = factsOf rows
  /-- The document tells the same. -/
  document : ∀ fact, fact ∈ documentFacts (document (.devices rows)) ↔ fact ∈ factsOf rows
  /-- The table tells the same, apart from values that are empty. -/
  table : ∀ fact, fact ∈ (deviceGrid rows).facts ↔ fact ∈ factsOf rows ∧ fact.value ≠ ""
  /-- No device has two values for a code. -/
  single : ∀ fact ∈ factsOf rows, ∀ other ∈ factsOf rows, fact.ip = other.ip → fact.eoj = other.eoj →
    fact.epc = other.epc → fact = other

/-- **Rows of first values are told the same in each form.** -/
theorem ShowsFirst.sameStory {held : Endpoint → List Property} {rows : List DeviceRow} (h : ShowsFirst held rows) :
    SameStory rows := by
  have records : (deviceGrid rows).records = rows.map (deviceRecord (Format.shownEpcs rows)) := rfl
  constructor
  case aligned =>
    intro record mem
    rw [records] at mem
    obtain ⟨row, -, rfl⟩ := List.mem_map.mp mem
    simp [deviceRecord, deviceGrid]
  case leading => rfl
  case columns => exact codes_deviceGrid rows
  case cells =>
    intro line column row epc atLine atColumn
    refine ⟨deviceRecord (Format.shownEpcs rows) row, valueOf row epc, ?_, ?_, valueOf_cases row epc⟩
    · rw [records, List.getElem?_map, atLine]
      rfl
    · rw [deviceRecord_eq, Nat.add_comm]
      show ((columnsOf rows).map (valueOf row))[column]? = _
      rw [List.getElem?_map, atColumn]
      rfl
  case entries =>
    intro line row atLine
    obtain ⟨members, stands, names⟩ := properties_deviceDocument row
    have items : (document (.devices rows)).items = rows.map deviceDocument := rfl
    refine ⟨deviceDocument row, members, ?_, stands, names⟩
    rw [items, List.getElem?_map, atLine]
    rfl
  case compact => exact compactFacts_compact h.plain
  case document => exact fun fact => mem_documentFacts h.steady
  case table => exact fun fact => mem_facts_deviceGrid h.steady
  case single => exact fun fact told other otherTold => h.single told otherTold

/-! ## Answers -/

/-- The rows of each listing in an answer: all rows, or those under each key. -/
def Answer.listings : Answer → List (List DeviceRow)
  | .devices rows => [rows]
  | .grouped _ parts => parts.map Prod.snd
  | _ => []

theorem subset_rows_of_listing {answer : Answer} {rows : List DeviceRow} (mem : rows ∈ answer.listings) :
    rows ⊆ answer.rows := by
  cases answer with
  | devices all =>
    rw [List.mem_singleton.mp mem]
    exact List.Subset.refl _
  | grouped epc parts =>
    obtain ⟨part, inParts, rfl⟩ := List.mem_map.mp mem
    exact fun row inPart => List.mem_flatMap.mpr ⟨part, inParts, inPart⟩
  | _ => cases mem

/-- A command that answers with rows. -/
def Command.AnswersRows : Command → Prop
  | .devices _ | .get _ | .set _ => True
  | _ => False

/-- **A command answers with rows of first values.** Only a listing by a code has them under keys. -/
theorem showsFirst_carryOut {now : Time} {command : Command} {backend after : Backend} {outcome : Outcome}
    (answers : command.AnswersRows) (succeeded : carryOut now command backend = (.ok outcome, after)) :
    ((∃ rows, outcome.answer = .devices rows)
      ∨ ∃ selection epc parts, command = .devices selection ∧ selection.groupBy = some epc
        ∧ outcome.answer = .grouped epc parts)
    ∧ ∃ held, ShowsFirst held outcome.answer.rows := by
  cases command with
  | devices selection =>
    have ran : runOn (Router.listing selection) backend = (.ok outcome, after) := succeeded
    rcases listing_cases selection backend with ⟨snapshots, listed, cached⟩ | ⟨error, failed⟩
    · rw [listed] at ran
      cases ran
      refine ⟨?_, _, showsFirst_listing selection cached⟩
      unfold Router.present
      cases grouped : selection.groupBy with
      | none => exact .inl ⟨_, rfl⟩
      | some epc => exact .inr ⟨selection, epc, _, rfl, grouped, rfl⟩
    · rw [failed] at ran
      cases ran
  | get selection =>
    obtain ⟨shape, firsts⟩ := showsFirst_reading succeeded
    exact ⟨.inl shape, _, firsts⟩
  | set selection =>
    obtain ⟨shape, firsts⟩ := showsFirst_writing succeeded
    exact ⟨.inl shape, _, firsts⟩
  | _ => cases answers

/-- **All forms tell the same.** On any site, whatever a listing, a reading or a writing is aimed at and whatever codes
or values it names, also repeated ones: if it succeeds it answers with rows, which a listing by a code has under keys.
For these rows, and for those under each key, the table, the document and the compact lines have the same facts: no
device has two values for a code, and an empty cell of the table stands for an empty value or a code that the row does
not have. Compact lines of rows under keys only count them. -/
theorem formats_agree {now : Time} {command : Command} {backend after : Backend} {outcome : Outcome}
    (answers : command.AnswersRows) (succeeded : carryOut now command backend = (.ok outcome, after)) :
    ((∃ rows, outcome.answer = .devices rows)
      ∨ ∃ selection epc parts, command = .devices selection ∧ selection.groupBy = some epc
        ∧ outcome.answer = .grouped epc parts)
    ∧ ∀ rows ∈ outcome.answer.listings, SameStory rows := by
  obtain ⟨shape, held, firsts⟩ := showsFirst_carryOut answers succeeded
  -- rows under a key are among all rows, so they show values of the same lists
  exact ⟨shape, fun rows mem => (firsts.subset (subset_rows_of_listing mem)).sameStory⟩

/-- A listing with a code that is asked twice. -/
def modeTwice : DevicesCommand := { mode := .epc, epcs := [⟨0xB0⟩, ⟨0x80⟩, ⟨0xB0⟩] }

/-- Two air conditioners, of which one does not tell whether it is on. -/
def rowsOfModeTwice : List DeviceRow :=
  let mode (value : String) : PropertyRow := ⟨⟨0xB0⟩, some "Operation mode setting", value⟩
  [⟨airConditioner, none, [mode "auto", ⟨⟨0x80⟩, some "Operation status", "on"⟩, mode "auto"], some 1⟩,
   ⟨secondConditioner, none, [mode "cooling", mode "cooling"], some 1⟩]

/-- Compact lines have the mode of both twice, the table has it once and an empty cell for what is not told. -/
theorem formats_agree_repeated :
    (carryOut 3 (.devices modeTwice) siteOfGroup).1 = .ok { answer := .devices rowsOfModeTwice, devices := 2 }
      ∧ SameStory rowsOfModeTwice
      ∧ compact (.devices rowsOfModeTwice)
        = "10.0.0.1 0130:1 B0=auto 80=on B0=auto\n10.0.0.2 0130:1 B0=cooling B0=cooling"
      ∧ deviceGrid rowsOfModeTwice
        = ⟨["IP", "EOJ", "Alias", "B0 Operation mode setting", "80 Operation status"],
          [["10.0.0.1", "0130:1", "", "auto", "on"], ["10.0.0.2", "0130:1", "", "cooling", ""]]⟩ := by
  have listed : (carryOut 3 (.devices modeTwice) siteOfGroup).1
      = .ok { answer := .devices rowsOfModeTwice, devices := 2 } := by decide +kernel
  have answers : (Command.devices modeTwice).AnswersRows := trivial
  have same : SameStory rowsOfModeTwice := by
    generalize ran : carryOut 3 (.devices modeTwice) siteOfGroup = last at listed
    obtain ⟨answer, after⟩ := last
    obtain rfl : answer = .ok { answer := .devices rowsOfModeTwice, devices := 2 } := listed
    exact (formats_agree answers ran).2 rowsOfModeTwice (List.mem_singleton_self _)
  exact ⟨listed, same, by decide +kernel, by decide +kernel⟩

/-! ## Printed answers -/

/-- A printed text is the grid, the document or the compact lines of rows, and tells what the rows tell. -/
structure Printed (formatter : Formatter) (rows : List DeviceRow) (text : String) : Prop where
  /-- Only of no rows it is printed that there are none. -/
  absence : formatter.format = .table → (text = "(no devices)" ↔ rows = [])
  grid : formatter.format = .table → rows ≠ [] →
    text = (deviceGrid rows).render formatter.style 32 formatter.paint
  /-- A table has each address, object and value, in lines that are nothing else when they are put together. -/
  cells : formatter.format = .table → ∀ fact ∈ factsOf rows, ∀ told ∈ [fact.ip, fact.eoj, fact.value],
    (cellOf 32 told).lines.flatten = told.toList ∧ ∀ line ∈ (cellOf 32 told).lines, line <:+: text.toList
  /-- JSON is read back as the document, which tells the same. -/
  json : formatter.format.isJson = true → Json.Value.ofJson? text = some (document (.devices rows))
    ∧ ∀ fact, fact ∈ documentFacts (document (.devices rows)) ↔ fact ∈ factsOf rows
  compact : formatter.format = .compact → compactFacts text = factsOf rows

/-- What a row tells stands in its record. -/
theorem told_mem_record {rows : List DeviceRow} {row : DeviceRow} (inRows : row ∈ rows) (steady : row.Steady)
    {shown : PropertyRow} (inRow : shown ∈ row.properties) :
    ∀ told ∈ [(row.fact shown).ip, (row.fact shown).eoj, (row.fact shown).value],
      told ∈ deviceRecord (Format.shownEpcs rows) row := by
  have column : shown.epc ∈ columnsOf rows :=
    List.mem_eraseDups.mpr (List.mem_flatMap.mpr ⟨row, inRows, List.mem_map_of_mem inRow⟩)
  have value : shown.value ∈ (columnsOf rows).map (valueOf row) :=
    List.mem_map.mpr ⟨shown.epc, column, valueOf_of_mem steady inRow⟩
  rw [deviceRecord_eq]
  refine List.forall_mem_cons.mpr ⟨?ip, List.forall_mem_cons.mpr ⟨?eoj, List.forall_mem_singleton.mpr ?value⟩⟩
  case ip => exact List.mem_cons_self
  case eoj => exact List.mem_cons_of_mem _ List.mem_cons_self
  case value => exact List.mem_cons_of_mem _ (List.mem_cons_of_mem _ (List.mem_cons_of_mem _ value))

/-- What a row tells has no separators in it, so no line breaks. -/
theorem ShowsFirst.whole_told {held : Endpoint → List Property} {rows : List DeviceRow} (h : ShowsFirst held rows)
    {fact : Fact} (tells : fact ∈ factsOf rows) : ∀ told ∈ [fact.ip, fact.eoj, fact.value], Whole told.toList := by
  obtain ⟨row, inRows, shown, inRow, rfl⟩ := mem_factsOf.mp tells
  exact List.forall_mem_cons.mpr ⟨whole_ip _, List.forall_mem_cons.mpr
    ⟨whole_eoj _, List.forall_mem_singleton.mpr (h.plain row inRows shown inRow)⟩⟩

/-- **Rows of first values are printed as they are told**, with any formatter. -/
theorem ShowsFirst.printed {held : Endpoint → List Property} {rows : List DeviceRow} (h : ShowsFirst held rows)
    (formatter : Formatter) : Printed formatter rows (formatter.writeAnswer (.devices rows)) := by
  have table (chosen : formatter.format = .table) : formatter.writeAnswer (.devices rows)
      = TableLayout.devices { style := formatter.style, paint := formatter.paint } rows := by
    rw [Formatter.writeAnswer, chosen]
    rfl
  constructor
  case absence => exact fun chosen => table chosen ▸ TableLayout.devices_eq_absence_iff _
  case grid => exact fun chosen some_row => (table chosen).trans (TableLayout.devices_eq_render _ some_row)
  case cells =>
    intro chosen fact tells told mem
    have oneLine : told.toList.filter (· ≠ '\n') = told.toList := by
      refine List.filter_eq_self.mpr fun c inTold => decide_eq_true ?_
      rintro rfl
      exact (h.whole_told tells told mem).not_mem rfl inTold
    refine ⟨(flatten_lines_cellOf (by decide) told).trans oneLine, fun line inCell => ?_⟩
    obtain ⟨row, inRows, shown, inRow, rfl⟩ := mem_factsOf.mp tells
    have inRecord := told_mem_record inRows (h.steady row inRows) inRow told mem
    rw [table chosen, TableLayout.devices_eq_render _ (List.ne_nil_of_mem inRows)]
    exact Grid.line_printed _ _ _ (List.mem_cons_of_mem _ (List.mem_map_of_mem inRows)) inRecord inCell
  case json =>
    intro chosen
    exact ⟨Formatter.ofJson?_writeAnswer chosen _, fun fact => mem_documentFacts h.steady⟩
  case compact =>
    intro chosen
    rw [Formatter.writeAnswer, chosen]
    exact compactFacts_compact h.plain

/-- **What a command answers is printed as it is told.** If a listing, a reading or a writing succeeds, the text of its
rows in the chosen format tells what the rows tell, and so does the text of the rows under each key. -/
theorem answers_printed {now : Time} {command : Command} {backend after : Backend} {outcome : Outcome}
    (answers : command.AnswersRows) (succeeded : carryOut now command backend = (.ok outcome, after))
    (formatter : Formatter) :
    ∀ rows ∈ outcome.answer.listings, Printed formatter rows (formatter.writeAnswer (.devices rows)) := by
  obtain ⟨-, held, firsts⟩ := showsFirst_carryOut answers succeeded
  exact fun rows mem => (firsts.subset (subset_rows_of_listing mem)).printed formatter

/-- The table of the rows under a key stands in the table of all. -/
theorem infix_write_of_listing (layout : TableLayout) {answer : Answer} {rows : List DeviceRow}
    (mem : rows ∈ answer.listings) : (layout.devices rows).toList <:+: (layout.write answer).toList := by
  cases answer with
  | devices all =>
    obtain rfl : rows = all := List.mem_singleton.mp mem
    exact List.infix_rfl
  | grouped epc parts =>
    obtain ⟨part, inParts, rfl⟩ := List.mem_map.mp mem
    rw [TableLayout.write, if_neg (by simp [List.ne_nil_of_mem inParts])]
    refine List.IsInfix.trans ?_ (infix_intercalate "\n\n" (List.mem_map_of_mem inParts))
    rw [String.toList_append]
    exact (List.suffix_append _ _).isInfix
  | _ => cases mem

end DeviceConsole
