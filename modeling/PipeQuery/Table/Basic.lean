import PipeQuery.Json.Basic
import PipeQuery.Unicode.Lowercase

/-! Tables of texts: named columns, rows of cells, and what is known about the call that gave
them. A table that says it failed has no rows to work on. Tables are written as JSON values. -/

namespace PipeQuery

/-- Columns, rows of cells and the outcome of a call. The rows of a table made by this library
are as long as its columns; a table from outside may have others. -/
structure Table where
  columns : List String
  rows : List (List String)
  rowCount : Nat
  executionTime : Int
  success : Bool
  error : Option String
deriving DecidableEq, Repr

namespace Table

/-- A successful table of the given rows. -/
def ofRows (columns : List String) (rows : List (List String)) : Table :=
  ⟨columns, rows, rows.length, 0, true, none⟩

def empty : Table := ofRows [] []

/-- The table of a call that failed. -/
def failed (error : String) : Table := ⟨[], [], 0, 0, false, some error⟩

def withExecutionTime (t : Table) (milliseconds : Int) : Table :=
  { t with executionTime := milliseconds }

/-- Other columns and rows from the same call. -/
def reshape (t : Table) (columns : List String) (rows : List (List String)) : Table :=
  { t with columns, rows, rowCount := rows.length }

/-- The first column with this name; if there is none, the first whose name differs in case
only. -/
def columnIndex? (t : Table) (name : String) : Option Nat :=
  match t.columns.findIdx? (· = name) with
  | some i => some i
  | none => t.columns.findIdx? (Unicode.lowercase · = Unicode.lowercase name)

def cell? (t : Table) (row column : Nat) : Option String := do (← t.rows[row]?)[column]?

def isEmpty (t : Table) : Bool := t.rows.isEmpty

/-- The members of a table; an error is there only if the table has one. -/
def toJson (t : Table) : Json :=
  .object <|
    [("columns", .array (t.columns.map .string)),
     ("rows", .array (t.rows.map fun row => .array (row.map .string))),
     ("rowCount", .number (.integer t.rowCount)),
     ("executionTimeMs", .number (.integer t.executionTime)),
     ("success", .bool t.success)] ++
    match t.error with
    | some e => [("error", .string e)]
    | none => []

end Table

/-- The cell of a row in a column; a row that is too short is empty there. -/
def cellOf (row : List String) (column : Nat) : String := row[column]?.getD ""

end PipeQuery
