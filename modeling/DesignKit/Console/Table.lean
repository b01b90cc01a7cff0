import DesignKit.Console.Styled
import DesignKit.Console.Wrap
import DesignKit.Number.Binary
import DesignKit.Text.LineBreak

/-! # Tables on a console

A table is drawn in a box: its title in the middle above it, the heads in heavy lines and the rows in light
ones. Every column is as wide as its widest line, with a blank on both sides, as long as the table fits into a line
of the console; a cell of several lines makes its row as high. -/

namespace DesignKit.Console

/-- A table with a title, the heads of its columns and its rows. -/
structure Table where
  title : String
  heads : List String
  rows : List (List String)

/-- A number of copies of a character. -/
def copies (n : Nat) (c : Char) : String :=
  String.ofList (List.replicate n c)

/-- A text with blanks after it up to a width. -/
def padEnd (width : Nat) (s : String) : String :=
  s ++ copies (width - Text.width s) ' '

/-- A text in the middle of a width. The blank that is left over stands after it. -/
def center (width : Nat) (s : String) : String :=
  copies ((width - Text.width s) / 2) ' ' ++ padEnd (width - (width - Text.width s) / 2) s

/-- The width of the widest line of a cell. A line separator ends a line as a line break does, and a tab takes no
width. -/
def cellWidth (s : String) : Nat :=
  ((s.toList.splitOnP Text.endsLine).map Text.charsWidth).foldl max 0

/-- The width of columns side by side. -/
def total (ws : List Nat) : Nat :=
  ws.foldl (fun n w => n + w) 0

/-- Widths of which an excess is taken from a number of columns of one width, from each the same part of what is
left to take and no more than a step. -/
def lessen (widest step : Nat) : Nat → Nat → List Nat → List Nat
  | _, _, [] => []
  | excess, count, w :: ws =>
    if w == widest then
      let part := min step (Number.roundQuotient excess count)
      (w - part) :: lessen widest step (excess - part) (count - 1) ws
    else w :: lessen widest step excess count ws

/-- Widths of columns that fit into a room: the widest columns become narrower, down to the width of the next ones
first. Every round takes a cell at least. -/
def narrow (room : Nat) : Nat → List Nat → List Nat
  | 0, ws => ws
  | rounds + 1, ws =>
    let excess := total ws - room
    if excess == 0 then ws
    else
      let widest := ws.foldl max 0
      let second := (ws.filter (· != widest)).foldl max 0
      narrow room rounds (lessen widest (min excess (widest - second)) excess (ws.count widest) ws)

namespace Table

/-- The width of the widest cell of a column. -/
def columnWidth (t : Table) (column : Nat) : Nat :=
  ((t.heads :: t.rows).map fun row => cellWidth (row.getD column "")).foldl max 0

/-- The widths of the columns with the blanks around their cells, as many as fit into a room. -/
def fullWidths (t : Table) (room : Nat) : List Nat :=
  let ws := (List.range t.heads.length).map fun column => min room (t.columnWidth column + 2)
  narrow room (total ws) ws

/-- The widths of the columns without the blanks around their cells. The uprights take the cells that are left. -/
def widths (t : Table) : List Nat :=
  (t.fullWidths (lineRoom - (t.heads.length + 1))).map fun w => w - 2

/-- A rule across the table: its left end, the line, the crossings and the right end. -/
def rule (widths : List Nat) (left line crossing right : Char) : String :=
  left.toString ++ crossing.toString.intercalate (widths.map fun w => copies (w + 2) line) ++ right.toString

/-- The lines of a row between uprights. -/
def rowLines (widths : List Nat) (upright : Char) (row : List String) : List String :=
  let cells := (row.zip widths).map fun (cell, w) => (wrap .ellipsis w cell, w)
  let height := (cells.map (·.1.length)).foldl max 1
  (List.range height).map fun n =>
    let parts := cells.map fun (lines, w) => " " ++ padEnd w (lines.getD n "") ++ " "
    upright.toString ++ upright.toString.intercalate parts ++ upright.toString

/-- The lines of a table. -/
def lines (t : Table) : List String :=
  let ws := t.widths
  let width := ws.foldl (fun n w => n + w + 3) 1
  [center width t.title, rule ws '┏' '━' '┳' '┓'] ++ rowLines ws '┃' t.heads ++ [rule ws '┡' '━' '╇' '┩'] ++
    t.rows.flatMap (rowLines ws '│') ++ [rule ws '└' '─' '┴' '┘']

/-- The text of a table whose cells are styled texts. Every line is ended by a line break. -/
def print (t : Table) : Except Fault String := do
  let rows ← t.rows.mapM (·.mapM shown)
  return String.join ({ t with rows }.lines.map (· ++ "\n"))

end Table
end DesignKit.Console
