import DeviceConsole.Format.Formatter
import DeviceConsole.Proofs.Json.ReadBack
import DeviceConsole.Proofs.OrderedMap

/-!
# `Proofs.Format.Texts` — what is printed of an answer

An answer becomes a grid or a document before it becomes a text, and nothing is lost on the way from there. JSON is read
back as the document, whatever the layout. A table has the lines of every cell of the grid; they are cut where they are
too wide for a column, but put together they are the cell.

The text of a table is not read back as a whole: a border may also be a character of a cell.

* `plain_document`, `JsonLayout.ofJson?_write`, `Formatter.ofJson?_write` — **JSON is read back as the document**;
* `flatten_lines_cellOf` — the lines of a cell are its text;
* `Grid.line_printed` — **each line of a cell is printed**;
* `TableLayout.devices_eq_render`, `TableLayout.devices_eq_absence_iff` — the table of devices is the text of their
  grid, and only where there are none it says so.
-/

namespace DeviceConsole.Format

open Json (Value allPlain_iff allMembersPlain_iff)
open Text (charWidth)

/-! ## Documents -/

theorem plain_ofText (text : String) : (Value.ofText text).Plain := rfl

theorem plain_ofText? (text : Option String) : (Value.ofText? text).Plain := by
  cases text with
  | none => exact trivial
  | some text => exact plain_ofText text

theorem plain_sorted {members : List (String × Value)} (plain : ∀ member ∈ members, member.2.Plain) :
    (Value.sorted members).Plain := by
  refine allMembersPlain_iff.mpr fun written mem => ?_
  obtain ⟨member, inserted, rfl⟩ := List.mem_map.mp mem
  exact ⟨rfl, plain member (mem_of_mem_insertEntries inserted)⟩

theorem plain_propertyDocument (property : PropertyRow) : (propertyDocument property).Plain :=
  plain_sorted (by simp [plain_ofText, plain_ofText?])

theorem plain_deviceDocument (row : DeviceRow) : (deviceDocument row).Plain := by
  have properties : (Value.sorted (row.properties.map fun property =>
      (property.epc.toText, propertyDocument property))).Plain := by
    refine plain_sorted fun member mem => ?_
    obtain ⟨property, -, rfl⟩ := List.mem_map.mp mem
    exact plain_propertyDocument property
  exact plain_sorted (by simp [endpointMembers, plain_ofText, plain_ofText?, properties])

theorem plain_devicesDocument (rows : List DeviceRow) : (devicesDocument rows).Plain := by
  refine allPlain_iff.mpr fun item mem => ?_
  obtain ⟨row, -, rfl⟩ := List.mem_map.mp mem
  exact plain_deviceDocument row

/-- **Every document of an answer is written as it is.** -/
theorem plain_document (answer : Answer) : (document answer).Plain := by
  cases answer with
  | devices rows => exact plain_devicesDocument rows
  | grouped epc groups =>
    refine plain_sorted (List.forall_mem_cons.mpr ⟨plain_ofText _, List.forall_mem_singleton.mpr ?_⟩)
    refine plain_sorted fun member mem => ?_
    obtain ⟨group, -, rfl⟩ := List.mem_map.mp mem
    exact plain_devicesDocument group.2
  | aliases aliases =>
    refine plain_sorted fun member mem => ?_
    obtain ⟨entry, -, rfl⟩ := List.mem_map.mp mem
    exact plain_sorted (by simp [endpointMembers, plain_ofText])
  | groups groups =>
    refine plain_sorted fun member mem => ?_
    obtain ⟨group, -, rfl⟩ := List.mem_map.mp mem
    refine allPlain_iff.mpr fun item inGroup => ?_
    obtain ⟨device, -, rfl⟩ := List.mem_map.mp inGroup
    exact plain_ofText device.toText
  | message text => exact plain_ofText text
  | nothing => exact trivial

/-- **JSON is read back as the document**, whatever the layout. -/
theorem JsonLayout.ofJson?_write (layout : JsonLayout) (answer : Answer) :
    Value.ofJson? (layout.write answer) = some (document answer) := by
  unfold JsonLayout.write
  split
  · exact Value.ofJson?_pretty (plain_document answer) _
  · exact Value.ofJson?_compact (plain_document answer)

theorem Formatter.ofJson?_writeAnswer {formatter : Formatter} (json : formatter.format.isJson = true)
    (answer : Answer) : Value.ofJson? (formatter.writeAnswer answer) = some (document answer) := by
  rw [writeAnswer]
  cases chosen : formatter.format with
  | json => exact JsonLayout.ofJson?_write _ _
  | jsonPretty => exact JsonLayout.ofJson?_write _ _
  | _ => simp [chosen, OutputFormat.isJson] at json

/-- **JSON is all that is printed of an outcome**: no statistics stand beside it. -/
theorem Formatter.ofJson?_write {formatter : Formatter} (json : formatter.format.isJson = true) (outcome : Outcome) :
    Value.ofJson? (formatter.write outcome) = some (document outcome.answer) := by
  have alone : formatter.write outcome = formatter.writeAnswer outcome.answer := by simp [write, json]
  rw [alone, ofJson?_writeAnswer json]

/-! ## Cells -/

/-- No character takes more than three columns. -/
theorem charWidth_le (c : Char) : charWidth c ≤ 3 := by
  unfold charWidth
  split_ifs
  all_goals decide

theorem flatten_linesOf (text : List Char) : (linesOf text).flatten = text.filter (· ≠ '\n') := by
  induction text with
  | nil => rfl
  | cons c rest ih =>
    rw [linesOf]
    split
    · next feed =>
      rw [List.flatten_cons, ih, feed]
      rfl
    · next other =>
      rw [List.filter_cons_of_pos (by simpa using other), ← ih]
      cases linesOf rest with
      | nil => rfl
      | cons line lines => rfl

/-- **Nothing but line breaks is put into a text that is cut**, if each character has room on a line. -/
theorem filter_wrapFrom {limit : Nat} {text : List Char} (narrow : ∀ c ∈ text, max 1 (charWidth c) ≤ limit)
    (used : Nat) : (wrapFrom limit used text).filter (· ≠ '\n') = text.filter (· ≠ '\n') := by
  induction text generalizing used with
  | nil => rfl
  | cons c rest ih =>
    obtain ⟨own, others⟩ := List.forall_mem_cons.mp narrow
    rw [wrapFrom]
    split
    · next feed => rw [List.filter_cons, List.filter_cons, ih others]
    · next other =>
      have kept (more : List Char) : (c :: more).filter (· ≠ '\n') = c :: more.filter (· ≠ '\n') :=
        List.filter_cons_of_pos (by simpa using other)
      generalize max 1 (charWidth c) = width at own
      by_cases full : used = limit ∨ limit < used + width ∧ width ≤ limit
      · have room : 0 + width ≤ limit := by omega
        simp only [if_pos full, if_pos room]
        rw [List.filter_cons_of_neg (by simp), kept, kept, ih others]
      · have room : used + width ≤ limit := by omega
        simp only [if_neg full, if_pos room]
        rw [kept, kept, ih others]

/-- **The lines of a cell, put together, are its text** but for line breaks of its own. -/
theorem flatten_lines_cellOf {limit : Nat} (wide : 3 ≤ limit) (text : String) :
    (cellOf limit text).lines.flatten = text.toList.filter (· ≠ '\n') := by
  show (linesOf (wrapText limit text.toList)).flatten = _
  rw [flatten_linesOf, wrapText]
  split
  · rfl
  · rw [if_neg (by omega)]
    refine filter_wrapFrom (fun c _ => ?_) 0
    have width := charWidth_le c
    omega

/-! ## Rows -/

theorem infix_intercalate (separator : String) {part : String} {parts : List String} (mem : part ∈ parts) :
    part.toList <:+: (separator.intercalate parts).toList := by
  induction parts with
  | nil => cases mem
  | cons first rest ih =>
    cases rest with
    | nil => simp only [List.mem_singleton.mp mem, String.intercalate_singleton, List.infix_refl]
    | cons next more =>
      rw [String.intercalate_cons_cons, String.toList_append]
      rcases List.mem_cons.mp mem with rfl | later
      · rw [String.toList_append, List.append_assoc]
        exact (List.prefix_append _ _).isInfix
      · exact (ih later).trans (List.suffix_append _ _).isInfix

theorem le_foldl_max {count : Nat} {counts : List Nat} (mem : count ∈ counts) (start : Nat) :
    count ≤ counts.foldl max start := by
  rw [List.foldl_max]
  exact Nat.le_trans (List.le_max?_getD_of_mem mem) (Nat.le_max_right _ _)

theorem le_foldl_max_start (counts : List Nat) (start : Nat) : start ≤ counts.foldl max start := by
  rw [List.foldl_max]
  exact Nat.le_max_left _ _

/-- **A row has each line of each of its cells**, if there is a column for each. -/
theorem exists_line_of_cell (borders : Borders) {widths : List Nat} (centred : Bool) (paint : String → String)
    {row : List Cell} (columns : row.length ≤ widths.length) {cell : Cell} (inRow : cell ∈ row) {line : List Char}
    (inCell : line ∈ cell.lines) :
    ∃ printed ∈ renderRow borders widths centred paint row,
      (paint (String.ofList line)).toList <:+: printed.toList := by
  obtain ⟨column, inside, rfl⟩ := List.mem_iff_getElem.mp inRow
  obtain ⟨index, atIndex⟩ := List.mem_iff_getElem?.mp inCell
  have some_width : column < widths.length := Nat.lt_of_lt_of_le inside columns
  have height : index < (row.map fun cell => cell.lines.length).foldl max 1 := by
    have counted : row[column].lines.length ∈ row.map fun cell => cell.lines.length :=
      List.mem_map.mpr ⟨_, inRow, rfl⟩
    exact Nat.lt_of_lt_of_le (List.getElem?_eq_some_iff.mp atIndex).1 (le_foldl_max counted 1)
  refine ⟨_, List.mem_map_of_mem (List.mem_range.mpr height), ?_⟩
  -- the line stands between blanks in its cell, and the cell between the other ones
  have inText (margin width : Nat) : (paint (String.ofList line)).toList
      <:+: (renderLine paint margin width row[column].lines[index]?).toList := by
    rw [atIndex, renderLine, String.toList_append, String.toList_append]
    exact List.infix_append _ _ _
  have inCells : renderLine paint (if centred then (widths[column] - row[column].width) / 2 else 0) widths[column]
        row[column].lines[index]?
      ∈ row.zipWith (fun cell width => renderLine paint (if centred then (width - cell.width) / 2 else 0) width
          cell.lines[index]?) widths :=
    List.mem_iff_getElem.mpr ⟨column, by simp [inside, some_width], List.getElem_zipWith⟩
  refine ((inText _ _).trans (infix_intercalate borders.inner inCells)).trans ?_
  rw [String.toList_append, String.toList_append]
  exact List.infix_append _ _ _

theorem length_widen (widths others : List Nat) : (widen widths others).length = max widths.length others.length := by
  fun_induction widen widths others with
  | case1 others => simp
  | case2 widths => simp
  | case3 width widths other others ih => simp only [List.length_cons, ih]; omega

/-- There is a column for each cell of a row. -/
theorem length_le_columnWidths {rows : List (List Cell)} {row : List Cell} (mem : row ∈ rows) :
    row.length ≤ (columnWidths rows).length := by
  have widest (start : List Nat) :
      (rows.foldl (fun widths row => widen widths (row.map Cell.width)) start).length
        = (rows.map List.length).foldl max start.length := by
    clear mem
    induction rows generalizing start with
    | nil => rfl
    | cons row rest ih => rw [List.foldl_cons, ih, length_widen, List.length_map, List.map_cons, List.foldl_cons]
  rw [columnWidths, widest]
  exact le_foldl_max (List.mem_map_of_mem mem) _

/-- The lines between rows take none of theirs away. -/
theorem mem_separate (rule : Option String) {rows : List (List String)} {row : List String} (mem : row ∈ rows)
    {line : String} (inRow : line ∈ row) : line ∈ separate rule rows := by
  fun_induction separate rule rows with
  | case1 => cases mem
  | case2 only => rwa [← List.mem_singleton.mp mem]
  | case3 first rest _ ih =>
    rcases List.mem_cons.mp mem with rfl | later
    · exact List.mem_append_left _ (List.mem_append_left _ inRow)
    · exact List.mem_append_right _ (ih later)

/-! ## Grids -/

theorem infix_heading (paint : Paint) (text : String) : text.toList <:+: (paint.heading text).toList := by
  unfold Paint.heading Paint.wrap
  split
  · rw [String.toList_append, String.toList_append]
    exact List.infix_append _ _ _
  · exact List.infix_rfl

/-- **Each line of a cell is printed**, in the header and in the records. -/
theorem Grid.line_printed (style : TableStyle) (limit : Nat) (paint : Paint) {grid : Grid} {record : List String}
    (inGrid : record ∈ grid.header :: grid.records) {cell : String} (inRecord : cell ∈ record) {line : List Char}
    (inCell : line ∈ (cellOf limit cell).lines) : line <:+: (grid.render style limit paint).toList := by
  let cells (record : List String) : List Cell := record.map (cellOf limit)
  have columns : (cells record).length ≤ (columnWidths (cells grid.header :: grid.records.map cells)).length :=
    length_le_columnWidths (List.mem_map.mpr ⟨record, inGrid, rfl⟩)
  have inRow : cellOf limit cell ∈ cells record := List.mem_map_of_mem inRecord
  unfold render
  rcases List.mem_cons.mp inGrid with rfl | inRecords
  · obtain ⟨printed, inHeader, inLine⟩ := exists_line_of_cell style.borders true paint.heading columns inRow inCell
    have painted := infix_heading paint (String.ofList line)
    rw [String.toList_ofList] at painted
    refine (painted.trans inLine).trans (infix_intercalate "\n" ?_)
    exact List.mem_append_left _ (List.mem_append_left _ (List.mem_append_left _ (List.mem_append_right _ inHeader)))
  · obtain ⟨printed, inRows, inLine⟩ := exists_line_of_cell style.borders false id columns inRow inCell
    have itself : (id (String.ofList line)).toList = line := String.toList_ofList
    rw [itself] at inLine
    refine inLine.trans (infix_intercalate "\n" ?_)
    have inRecordRows := List.mem_map_of_mem (f := cells) inRecords
    exact List.mem_append_left _ (List.mem_append_right _
      (mem_separate _ (List.mem_map.mpr ⟨_, inRecordRows, rfl⟩) inRows))

theorem newline_mem_intercalate {parts : List String} (several : 2 ≤ parts.length) :
    '\n' ∈ ("\n".intercalate parts).toList := by
  obtain ⟨first, next, more, rfl⟩ : ∃ first next more, parts = first :: next :: more := by
    match parts with
    | first :: next :: more => exact ⟨first, next, more, rfl⟩
  rw [String.intercalate_cons_cons]
  simp

/-- A table has a line under its header. -/
theorem newline_mem_render (style : TableStyle) (limit : Nat) (paint : Paint) (grid : Grid) :
    '\n' ∈ (grid.render style limit paint).toList := by
  unfold Grid.render
  refine newline_mem_intercalate ?_
  have some_line (row : List Cell) (widths : List Nat) :
      1 ≤ (renderRow style.borders widths true paint.heading row).length := by
    rw [renderRow, List.length_map, List.length_range]
    exact le_foldl_max_start _ 1
  simp only [List.length_append, List.length_singleton]
  have header := some_line (grid.header.map (cellOf limit))
    (columnWidths (grid.header.map (cellOf limit) :: grid.records.map fun record => record.map (cellOf limit)))
  omega

/-! ## Tables of devices -/

section Devices

variable (layout : TableLayout) {rows : List DeviceRow}

/-- **The table of devices is the text of their grid.** -/
theorem TableLayout.devices_eq_render (some_row : rows ≠ []) :
    layout.devices rows = (deviceGrid rows).render layout.style layout.limit layout.paint := by
  have records : (deviceGrid rows).records.isEmpty = false := by
    simp [deviceGrid, some_row]
  rw [devices, render, records]
  rfl

/-- **Only of no devices is it printed that there are none.** -/
theorem TableLayout.devices_eq_absence_iff : layout.devices rows = "(no devices)" ↔ rows = [] := by
  constructor
  · intro absence
    by_contra some_row
    rw [layout.devices_eq_render some_row] at absence
    have feed := newline_mem_render layout.style layout.limit layout.paint (deviceGrid rows)
    rw [absence] at feed
    exact absurd feed (by decide)
  · rintro rfl
    rfl

end Devices

end DeviceConsole.Format
