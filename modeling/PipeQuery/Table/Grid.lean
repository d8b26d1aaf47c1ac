import PipeQuery.Table.Basic

/-! Tables as text grids: a header, a rule and a line per row, all of one width, and below them
the number of rows. -/

namespace PipeQuery.Table

/-- The width at which cells are cut, where none is given. -/
def defaultWidth : Nat := 60

/-- A cell in one line, with a space for each line break and tab, and cut to the width with
three dots. -/
def clip (width : Nat) (cell : String) : List Char :=
  let line := cell.toList.map fun c => if c = '\n' || c = '\r' || c = '\t' then ' ' else c
  if line.length ≤ width then line else line.take (width - 3) ++ ['.', '.', '.']

/-- The larger of two widths. -/
def wider (a b : Nat) : Nat := if a < b then b else a

/-- Widens each column to the cells of a row; cells past the last column do not count. -/
def widen : List Nat → List (List Char) → List Nat
  | w :: ws, cell :: cells => wider w cell.length :: widen ws cells
  | ws, [] => ws
  | [], _ => []

/-- The cells of a row in the widths of their columns, filled with spaces; cells past the last
column are left out. -/
def padded : List Nat → List (List Char) → List (List Char)
  | [], _ => []
  | w :: ws, [] => List.replicate w ' ' :: padded ws []
  | w :: ws, cell :: cells =>
    (cell ++ List.replicate (w - cell.length) ' ') :: padded ws cells

def gridLine (widths : List Nat) (cells : List (List Char)) : List Char :=
  [' ', '|', ' '].intercalate (padded widths cells) ++ ['\n']

def ruleLine (widths : List Nat) : List Char :=
  ['-', '+', '-'].intercalate (widths.map fun w => List.replicate w '-') ++ ['\n']

/-- Each column is as wide as the widest of its cells and its name. -/
def columnWidths (width : Nat) (t : Table) : List Nat :=
  (t.rows.map fun row => row.map (clip width)).foldl widen
    (t.columns.map fun name => (clip width name).length)

/-- The grid of header and rows, without columns nothing. -/
def gridLines (width : Nat) (t : Table) : List Char :=
  let widths := t.columnWidths width
  if t.columns.isEmpty then []
  else
    gridLine widths (t.columns.map (clip width)) ++ ruleLine widths ++
      (t.rows.map fun row => gridLine widths (row.map (clip width))).flatten

/-- The grid of a table with cells up to the given width, at least four; a failed table gives
its error. -/
def grid (width : Nat) (t : Table) : String :=
  if !t.success then "error: " ++ t.error.getD "unknown error" ++ "\n"
  else
    let width := wider width 4
    String.ofList (gridLines width t) ++
      s!"({t.rowCount} " ++ (if t.rowCount = 1 then "row" else "rows") ++ ")\n"

/-- The largest width to which cells can be filled up. -/
def maxColumnWidth : Nat := 65535

/-- The grid of a table, if no column is too wide to be filled up. -/
def grid? (width : Nat) (t : Table) : Option String :=
  if t.success && (t.columnWidths (wider width 4)).any (maxColumnWidth < ·) then none
  else some (t.grid width)

end PipeQuery.Table
