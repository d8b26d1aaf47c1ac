import PipeQuery.Table.Condition
import PipeQuery.Table.OfJson
import PipeQuery.Table.Sorting

/-! Operators on tables. A pipeline applies its operators from first to last, each to the table
that the one before made; a failed table goes through unchanged. -/

namespace PipeQuery.Table

/-- Keeps the rows on which all conditions hold. -/
def filterRows (t : Table) (conditions : List Condition) : Table :=
  t.reshape t.columns (t.rows.filter fun row => conditions.all fun c => c.holdsOn t row)

/-- The columns that the names stand for, each once and in the order of the names. -/
def projection (t : Table) (names : List String) : List Nat :=
  names.foldl (fun found name =>
    match t.columnIndex? name with
    | some i => if i ∈ found then found else found ++ [i]
    | none => found) []

/-- Keeps the named columns; a row that is too short gets empty cells. -/
def project (t : Table) (names : List String) : Table :=
  let kept := t.projection names
  t.reshape (kept.map (cellOf t.columns)) (t.rows.map fun row => kept.map (cellOf row))

/-- Keeps the first rows. -/
def take (t : Table) (n : Nat) : Table := t.reshape t.columns (t.rows.take n)

/-- Sorts by a column; without it the table stays as it is. -/
def sort (t : Table) (column : String) (ascending : Bool) : Table :=
  match t.columnIndex? column with
  | none => t
  | some i => t.reshape t.columns (sortRows i ascending t.rows)

/-- A table of the number of rows. -/
def count (t : Table) : Table := t.reshape ["Count"] [[toString t.rows.length]]

/-- The value that an extension gives to a row: the cell of the column that the expression
names, else the expression. -/
def extensionValue (source : Option Nat) (expression : String) (row : List String) : String :=
  match source with
  | some i => cellOf row i
  | none => expression

/-- Sets a column: where it is, if there is one of exactly this name, and else at the end of each
row. -/
def extend (t : Table) (column expression : String) : Table :=
  let value := extensionValue (t.columnIndex? expression) expression
  match t.columns.findIdx? (· = column) with
  | some i => t.reshape t.columns (t.rows.map fun row => row.set i (value row))
  | none => t.reshape (t.columns ++ [column]) (t.rows.map fun row => row ++ [value row])

/-- Applies one operator. -/
def apply (t : Table) : Operator → Table
  | .filter conditions => t.filterRows conditions
  | .project names => t.project names
  | .take n => t.take n
  | .sort column ascending => t.sort column ascending
  | .count => t.count
  | .extend column expression => t.extend column expression

/-- Applies operators in turn, unless the table is one of a failure. -/
def run (t : Table) (operators : List Operator) : Table :=
  if t.success then operators.foldl apply t else t

end PipeQuery.Table

namespace PipeQuery

/-- The table that a query makes of the JSON result of its call. -/
def Query.execute (q : Query) (json : String) (milliseconds : Int) : Table :=
  (Table.ofText json milliseconds).run q.operators

end PipeQuery
