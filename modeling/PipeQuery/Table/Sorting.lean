import PipeQuery.Table.Basic
import PipeQuery.Table.Cell

/-! Stable sorting of rows by insertion. Each row in turn moves up past the rows that it has to
come before and stays behind the others, those of an equal key included. -/

namespace PipeQuery

variable {α : Type}

/-- Inserts into a list that is sorted with its last element first. -/
def insertFromEnd (before : α → α → Bool) (x : α) : List α → List α
  | [] => [x]
  | y :: ys => if before x y then y :: insertFromEnd before x ys else x :: y :: ys

/-- Sorts by insertion from the end; `before x y` says that `x` has to come before `y`. -/
def sortStable (before : α → α → Bool) (xs : List α) : List α :=
  (xs.foldl (fun sorted x => insertFromEnd before x sorted) []).reverse

namespace Table

/-- A key has to come before another one in the given direction. -/
def keyBefore (ascending : Bool) (a b : SortKey) : Bool :=
  if ascending then a.order b = .lt else b.order a = .lt

/-- The rows in the order of their cells in one column. -/
def sortRows (column : Nat) (ascending : Bool) (rows : List (List String)) :
    List (List String) :=
  let keyed := rows.map fun row => (SortKey.ofCell (cellOf row column), row)
  (sortStable (fun a b => keyBefore ascending a.1 b.1) keyed).map (·.2)

end Table

end PipeQuery
