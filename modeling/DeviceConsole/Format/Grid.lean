import DeviceConsole.Format.Paint
import DeviceConsole.Format.Style
import DeviceConsole.Text.Line

/-!
# `Format.Grid` — tables of text

A grid has a header and records with as many cells. A cell that is wider than a limit is cut into lines, and a
column is as wide as its widest cell, with a blank on both sides. Records are set left, the header is centred.

## Contents

* `Grid` — header and records;
* `wrapText`, `Cell`, `cellOf` — a cell as lines;
* `columnWidths` — the width of every column;
* `Borders`, `TableStyle.borders` — the lines around and between cells;
* `Grid.render` — the text of the grid.
-/

namespace DeviceConsole.Format

open Text (charWidth lineWidth)

/-- A header and records of cells. -/
structure Grid where
  header : List String
  records : List (List String)
  deriving DecidableEq, Repr

/-! ## Cells -/

/-- The lines of a text. -/
def linesOf : List Char → List (List Char)
  | [] => [[]]
  | c :: rest =>
    if c = '\n' then [] :: linesOf rest
    else match linesOf rest with
      | line :: lines => (c :: line) :: lines
      | [] => [[c]]

/-- Fills what is left of a line instead of a character that is wider than any line. -/
def replacement : Char := Char.ofNat 0xFFFD

/-- Cuts text into lines of at most `limit` columns, character by character; `used` columns of the present line
are taken. Here every character takes a column, also a mark that is shown in the column of another one, so no line
has more than `limit` characters. -/
def wrapFrom (limit used : Nat) : List Char → List Char
  | [] => []
  | c :: rest =>
    if c = '\n' then c :: wrapFrom limit 0 rest
    else
      let width := max 1 (charWidth c)
      let full := used = limit ∨ (limit < used + width ∧ width ≤ limit)
      let column := if full then 0 else used
      let text :=
        if column + width ≤ limit then c :: wrapFrom limit (column + width) rest
        else List.replicate (limit - column) replacement ++ wrapFrom limit limit rest
      if full then '\n' :: text else text

/-- A line without the carriage return of its line break. -/
def withoutReturn (line : List Char) : List Char :=
  if line.getLast? = some '\r' then line.dropLast else line

/-- Whether no line is wider than the limit; a carriage return counts only where no line break follows it. -/
def fits (limit : Nat) : List (List Char) → Bool
  | [] => true
  | [line] => decide (lineWidth line ≤ limit)
  | line :: lines => decide (lineWidth (withoutReturn line) ≤ limit) && fits limit lines

/-- Cuts text that is wider than the limit. -/
def wrapText (limit : Nat) (text : List Char) : List Char :=
  if fits limit (linesOf text) then text
  else if limit = 0 then []
  else wrapFrom limit 0 text

/-- A cell: its lines, and the columns of the widest of them. -/
structure Cell where
  lines : List (List Char)
  width : Nat
  deriving DecidableEq, Repr

/-- The cell of a text within a limit. -/
def cellOf (limit : Nat) (text : String) : Cell :=
  let lines := linesOf (wrapText limit text.toList)
  ⟨lines, (lines.map lineWidth).foldl max 0⟩

/-! ## Columns -/

/-- The wider of two columns, one after the other. -/
def widen : List Nat → List Nat → List Nat
  | [], others => others
  | widths, [] => widths
  | width :: widths, other :: others => max width other :: widen widths others

/-- The width of every column of some rows. -/
def columnWidths (rows : List (List Cell)) : List Nat :=
  rows.foldl (fun widths row => widen widths (row.map Cell.width)) []

/-! ## Borders -/

/-- A line across the table: its ends, what runs along it, and where it crosses the line between columns. -/
structure Rule where
  left : String
  along : String
  crossing : String
  right : String
  deriving DecidableEq, Repr

/-- The lines of a table: on top, under the header, between records and at the bottom, and to the left of,
between and to the right of the columns. -/
structure Borders where
  top : Option Rule
  underHeader : Rule
  between : Option Rule
  bottom : Option Rule
  left : String
  inner : String
  right : String
  deriving DecidableEq, Repr

/-- The lines of a style. -/
def TableStyle.borders : TableStyle → Borders
  | modern =>
    let middle : Rule := ⟨"├", "─", "┼", "┤"⟩
    ⟨some ⟨"┌", "─", "┬", "┐"⟩, middle, some middle, some ⟨"└", "─", "┴", "┘"⟩, "│", "│", "│"⟩
  | ascii =>
    let rule : Rule := ⟨"+", "-", "+", "+"⟩
    ⟨some rule, rule, some rule, some rule, "|", "|", "|"⟩
  | rounded =>
    ⟨some ⟨"╭", "─", "┬", "╮"⟩, ⟨"├", "─", "┼", "┤"⟩, none, some ⟨"╰", "─", "┴", "╯"⟩, "│", "│", "│"⟩
  | markdown => ⟨none, ⟨"|", "-", "|", "|"⟩, none, none, "|", "|", "|"⟩
  | psql => ⟨none, ⟨"", "-", "+", ""⟩, none, none, "", "|", ""⟩

/-- A text several times over. -/
def repeatText (count : Nat) (text : String) : String := String.join (List.replicate count text)

/-- The text of a line across columns of given widths. -/
def Rule.render (rule : Rule) (widths : List Nat) : String :=
  rule.left ++ rule.crossing.intercalate (widths.map fun width => repeatText (width + 2) rule.along) ++
    rule.right

/-! ## Rows -/

/-- A line of a cell in a column of `width` columns after `margin` blanks; a line that the cell does not have is
blank. -/
def renderLine (paint : String → String) (margin width : Nat) : Option (List Char) → String
  | some line =>
    repeatText (1 + margin) " " ++ paint (String.ofList line) ++
      repeatText (width - margin - lineWidth line + 1) " "
  | none => repeatText (width + 2) " "

/-- The lines of a row. A cell of the header starts at half of what it leaves free. -/
def renderRow (borders : Borders) (widths : List Nat) (centred : Bool) (paint : String → String)
    (row : List Cell) : List String :=
  let height := (row.map fun cell => cell.lines.length).foldl max 1
  (List.range height).map fun index =>
    let cells := row.zipWith (fun cell width =>
      renderLine paint (if centred then (width - cell.width) / 2 else 0) width cell.lines[index]?) widths
    borders.left ++ borders.inner.intercalate cells ++ borders.right

/-- Rows with a line between each two. -/
def separate (rule : Option String) : List (List String) → List String
  | [] => []
  | [row] => row
  | row :: rest => row ++ rule.toList ++ separate rule rest

/-- The text of a grid whose cells are at most `limit` columns wide. -/
def Grid.render (style : TableStyle) (limit : Nat) (paint : Paint) (grid : Grid) : String :=
  let header := grid.header.map (cellOf limit)
  let records := grid.records.map fun record => record.map (cellOf limit)
  let widths := columnWidths (header :: records)
  let borders := style.borders
  let rule (rule : Rule) : String := rule.render widths
  "\n".intercalate
    ((borders.top.map rule).toList ++
      renderRow borders widths true paint.heading header ++
      [rule borders.underHeader] ++
      separate (borders.between.map rule) (records.map (renderRow borders widths false id)) ++
      (borders.bottom.map rule).toList)

end DeviceConsole.Format
