import PipeQuery.Pattern.Parser
import PipeQuery.Query.Basic
import PipeQuery.Table.Basic
import PipeQuery.Table.Cell

/-! Conditions on rows. Comparators of order compare numbers where both sides are numbers and
otherwise lower-case texts; the others look for a text, or for a pattern, in which case does not
count. -/

namespace PipeQuery

/-- The text contains the pattern somewhere. -/
def occursIn (pattern : List Char) : List Char → Bool
  | [] => pattern.isEmpty
  | c :: cs => pattern.isPrefixOf (c :: cs) || occursIn pattern cs

/-- The order of a cell and a value, as numbers if both are, else as lower-case texts. -/
def cellOrder (cell value : String) : Ordering :=
  match CellNumber.read? cell, CellNumber.read? value with
  | some a, some b => a.order b
  | _, _ => textOrder (Unicode.lowercase cell).toList (Unicode.lowercase value).toList

namespace Comparator

/-- What a comparator of order says about an order. -/
def holds : Comparator → Ordering → Bool
  | .equal, o => o = .eq
  | .notEqual, o => o ≠ .eq
  | .greater, o => o = .gt
  | .greaterEqual, o => o ≠ .lt
  | .less, o => o = .lt
  | .lessEqual, o => o ≠ .gt
  | _, _ => false

/-- Compares a cell with a value. A pattern that cannot be read matches nothing. -/
def test (cell : String) (c : Comparator) (value : String) : Bool :=
  let text := (Unicode.lowercase cell).toList
  let target := (Unicode.lowercase value).toList
  match c with
  | .contains | .has => occursIn target text
  | .startsWith => target.isPrefixOf text
  | .endsWith => target.isSuffixOf text
  | .matches => (Pattern.ofText? value).any fun p => p.matchesIn cell.toList
  | _ => c.holds (cellOrder cell value)

end Comparator

/-- The condition holds on a row. A column that is not there fails it. -/
def Condition.holdsOn (c : Condition) (t : Table) (row : List String) : Bool :=
  match t.columnIndex? c.column with
  | none => false
  | some i => c.comparator.test (cellOf row i) c.value

end PipeQuery
