import Mathlib.Data.List.Perm.Basic
import PipeQuery.Table.Sorting

/-! Sorting rows only moves them: the rows behind are the rows before in another order. -/

namespace PipeQuery

variable {α : Type}

theorem insertFromEnd_perm (before : α → α → Bool) (x : α) (xs : List α) :
    (insertFromEnd before x xs).Perm (x :: xs) := by
  induction xs with
  | nil => exact .refl _
  | cons y ys ih =>
    rw [insertFromEnd]
    split_ifs
    · exact (ih.cons y).trans (.swap x y ys)
    · exact .refl _

theorem foldl_insertFromEnd_perm (before : α → α → Bool) (xs sorted : List α) :
    (xs.foldl (fun sorted x => insertFromEnd before x sorted) sorted).Perm
      (xs.reverse ++ sorted) := by
  induction xs generalizing sorted with
  | nil => exact .refl _
  | cons x xs ih =>
    rw [List.foldl_cons, List.reverse_cons, List.append_assoc]
    exact (ih _).trans ((insertFromEnd_perm before x sorted).append_left _)

theorem sortStable_perm (before : α → α → Bool) (xs : List α) :
    (sortStable before xs).Perm xs := by
  have h := foldl_insertFromEnd_perm before xs []
  rw [List.append_nil] at h
  exact (List.reverse_perm _).trans (h.trans (List.reverse_perm xs))

/-- Sorted rows are the same rows, each as often as before. -/
theorem Table.sortRows_perm (column : Nat) (ascending : Bool) (rows : List (List String)) :
    (sortRows column ascending rows).Perm rows := by
  have h := (sortStable_perm (fun a b : SortKey × List String => keyBefore ascending a.1 b.1)
    (rows.map fun row => (SortKey.ofCell (cellOf row column), row))).map (·.2)
  rwa [List.map_map, List.map_id''] at h
  exact fun _ => rfl

end PipeQuery
