import PipeQuery.Proofs.Table.KeyOrder
import PipeQuery.Proofs.Table.Sorting
import PipeQuery.Table.Pipeline

/-! Filtering and sorting in either order. Where keys are compared by places in a linear order,
insertion keeps a list sorted, and an element stops behind the same elements whether or not some
of the others are left out. Sorting by insertion therefore commutes with every filter of rows, ties
included. -/

namespace PipeQuery

/-! ### Insertion -/

section Insertion

variable {α β : Type} [LinearOrder β]

/-- On the elements of `s`, the comparison is that of their ranks. -/
def RankedBy (before : α → α → Bool) (rank : α → β) (s : α → Prop) : Prop :=
  ∀ x y, s x → s y → (before x y ↔ rank x < rank y)

/-- Elements of `s` in the order of their ranks, the last one first. -/
structure SortedFromEnd (rank : α → β) (s : α → Prop) (sorted : List α) : Prop where
  mem : ∀ y ∈ sorted, s y
  pairwise : sorted.Pairwise fun y z => rank z ≤ rank y

variable {before : α → α → Bool} {rank : α → β} {s : α → Prop} {x y : α} {sorted : List α}

theorem SortedFromEnd.nil : SortedFromEnd rank s [] :=
  ⟨fun _ h => absurd h List.not_mem_nil, .nil⟩

theorem SortedFromEnd.tail (h : SortedFromEnd rank s (y :: sorted)) :
    SortedFromEnd rank s sorted :=
  ⟨fun z hz => h.mem z (List.mem_cons_of_mem y hz), h.pairwise.tail⟩

/-- An element that does not come before the first element comes before none. -/
theorem SortedFromEnd.not_before (hrank : RankedBy before rank s) (hx : s x)
    (h : SortedFromEnd rank s (y :: sorted)) (hxy : ¬before x y) :
    ∀ z ∈ y :: sorted, ¬before x z := by
  have hle : rank y ≤ rank x := by
    rwa [hrank x y hx (h.mem y List.mem_cons_self), not_lt] at hxy
  intro z hz
  rw [hrank x z hx (h.mem z hz), not_lt]
  rcases List.mem_cons.mp hz with rfl | htail
  · exact hle
  · exact (List.rel_of_pairwise_cons h.pairwise htail).trans hle

theorem mem_insertFromEnd {z : α} : z ∈ insertFromEnd before x sorted ↔ z = x ∨ z ∈ sorted := by
  rw [(insertFromEnd_perm before x sorted).mem_iff, List.mem_cons]

theorem insertFromEnd_eq_cons (h : ∀ y ∈ sorted, ¬before x y) :
    insertFromEnd before x sorted = x :: sorted := by
  cases sorted with
  | nil => rfl
  | cons y sorted => rw [insertFromEnd, if_neg (h y List.mem_cons_self)]

theorem SortedFromEnd.insert (hrank : RankedBy before rank s) (hx : s x)
    (h : SortedFromEnd rank s sorted) : SortedFromEnd rank s (insertFromEnd before x sorted) := by
  refine ⟨fun z hz => ?_, ?_⟩
  · rcases mem_insertFromEnd.mp hz with rfl | hold
    · exact hx
    · exact h.mem z hold
  · induction sorted with
    | nil => exact List.pairwise_singleton _ x
    | cons y sorted ih =>
      have hy : s y := h.mem y List.mem_cons_self
      rw [insertFromEnd]
      split_ifs with hxy
      · refine List.pairwise_cons.mpr ⟨fun z hz => ?_, ih h.tail⟩
        rcases mem_insertFromEnd.mp hz with rfl | hold
        · exact ((hrank z y hx hy).mp hxy).le
        · exact List.rel_of_pairwise_cons h.pairwise hold
      · refine List.pairwise_cons.mpr ⟨fun z hz => ?_, h.pairwise⟩
        have hxz := h.not_before hrank hx hxy z hz
        rwa [hrank x z hx (h.mem z hz), not_lt] at hxz

/-! ### Insertion and filters -/

/-- An element that the filter drops may be inserted or not. -/
theorem filter_insertFromEnd_of_neg {p : α → Bool} (hp : ¬p x) :
    (insertFromEnd before x sorted).filter p = sorted.filter p := by
  induction sorted with
  | nil => exact List.filter_cons_of_neg hp
  | cons y sorted ih =>
    rw [insertFromEnd]
    split_ifs
    · rw [List.filter_cons, List.filter_cons, ih]
    · exact List.filter_cons_of_neg hp

/-- An element that the filter keeps may be inserted before or after filtering. -/
theorem SortedFromEnd.filter_insert (hrank : RankedBy before rank s) (hx : s x)
    (h : SortedFromEnd rank s sorted) {p : α → Bool} (hp : p x) :
    (insertFromEnd before x sorted).filter p = insertFromEnd before x (sorted.filter p) := by
  induction sorted with
  | nil => exact List.filter_cons_of_pos hp
  | cons y sorted ih =>
    by_cases hxy : before x y
    · rw [insertFromEnd, if_pos hxy, List.filter_cons, List.filter_cons, ih h.tail]
      split_ifs
      · rw [insertFromEnd, if_pos hxy]
      · rfl
    · -- The first kept element need not be `y`, but none that is left comes behind `x`.
      have hstop := h.not_before hrank hx hxy
      rw [insertFromEnd, if_neg hxy, List.filter_cons_of_pos hp, insertFromEnd_eq_cons]
      exact fun z hz => hstop z (List.mem_of_mem_filter hz)

theorem SortedFromEnd.filter_foldl (hrank : RankedBy before rank s) {xs : List α}
    (hxs : ∀ x ∈ xs, s x) (h : SortedFromEnd rank s sorted) (p : α → Bool) :
    (xs.foldl (fun sorted x => insertFromEnd before x sorted) sorted).filter p =
      (xs.filter p).foldl (fun sorted x => insertFromEnd before x sorted) (sorted.filter p) := by
  induction xs generalizing sorted with
  | nil => rfl
  | cons x xs ih =>
    rw [List.forall_mem_cons] at hxs
    rw [List.foldl_cons, ih hxs.2 (h.insert hrank hxs.1), List.filter_cons]
    split_ifs with hp
    · rw [List.foldl_cons, h.filter_insert hrank hxs.1 hp]
    · rw [filter_insertFromEnd_of_neg hp]

/-- Sorting commutes with every filter. -/
theorem filter_sortStable (hrank : RankedBy before rank s) {xs : List α} (hxs : ∀ x ∈ xs, s x)
    (p : α → Bool) : (sortStable before xs).filter p = sortStable before (xs.filter p) := by
  rw [sortStable, List.filter_reverse, SortedFromEnd.nil.filter_foldl hrank hxs p]
  rfl

end Insertion

/-! ### Keys -/

theorem RankedBy.comap {α β γ : Type} [LinearOrder β] {before : α → α → Bool} {rank : α → β}
    {s : α → Prop} (h : RankedBy before rank s) (f : γ → α) :
    RankedBy (fun x y => before (f x) (f y)) (rank ∘ f) (s ∘ f) :=
  fun x y hx hy => h (f x) (f y) hx hy

namespace Table

theorem keyBefore_ascending : RankedBy (keyBefore true) SortKey.place SortKey.IsExact := by
  intro a b ha hb
  rw [keyBefore, if_pos rfl, decide_eq_true_iff]
  exact SortKey.order_eq_lt_iff ha hb

theorem keyBefore_descending :
    RankedBy (keyBefore false) (OrderDual.toDual ∘ SortKey.place) SortKey.IsExact := by
  intro a b ha hb
  rw [keyBefore, if_neg Bool.false_ne_true, decide_eq_true_iff]
  exact SortKey.order_eq_lt_iff hb ha

/-! ### Tables -/

/-- Rows with exact keys may be filtered before or after sorting. -/
theorem filter_sortRows {column : Nat} {rows : List (List String)}
    (hexact : ∀ row ∈ rows, (SortKey.ofCell (cellOf row column)).IsExact) (ascending : Bool)
    (p : List String → Bool) :
    (sortRows column ascending rows).filter p = sortRows column ascending (rows.filter p) := by
  have hkeys : ∀ x ∈ rows.map fun row => (SortKey.ofCell (cellOf row column), row),
      (SortKey.IsExact ∘ Prod.fst) x := by
    simp only [List.forall_mem_map, Function.comp_apply]
    exact hexact
  rw [sortRows, sortRows, List.filter_map]
  cases ascending with
  | true =>
    rw [filter_sortStable (keyBefore_ascending.comap Prod.fst) hkeys, List.filter_map]
    rfl
  | false =>
    rw [filter_sortStable (keyBefore_descending.comap Prod.fst) hkeys, List.filter_map]
    rfl

theorem filterRows_sort {t : Table} {column : String}
    (hexact : ∀ i, t.columnIndex? column = some i →
      ∀ row ∈ t.rows, (SortKey.ofCell (cellOf row i)).IsExact)
    (ascending : Bool) (conditions : List Condition) :
    (t.sort column ascending).filterRows conditions =
      (t.filterRows conditions).sort column ascending := by
  have hindex : (t.filterRows conditions).columnIndex? column = t.columnIndex? column := rfl
  rw [sort, sort, hindex]
  cases hcolumn : t.columnIndex? column with
  | none => rfl
  | some i =>
    show t.reshape t.columns _ = t.reshape t.columns _
    exact congrArg _ (filter_sortRows (hexact i hcolumn) ascending _)

/-- If all keys are exact, filtering and sorting may change places, whatever the conditions are and
whether or not their columns and the sorted one are there. -/
theorem run_sort_filter (t : Table) (conditions : List Condition) (column : String)
    (ascending : Bool)
    (hexact : ∀ i, t.columnIndex? column = some i →
      ∀ row ∈ t.rows, (SortKey.ofCell (cellOf row i)).IsExact) :
    t.run [.sort column ascending, .filter conditions] =
      t.run [.filter conditions, .sort column ascending] := by
  rw [run, run]
  exact ite_congr rfl (fun _ => filterRows_sort hexact ascending conditions) (fun _ => rfl)

/-- Prices of which two are equal and one is no number, and a row without a price. -/
def prices : Table where
  columns := ["item", "price"]
  rows := [["pear", "2.50"], ["fig", "none"], ["plum", "10"], ["kiwi", "2.5"], ["nut"]]
  rowCount := 5
  executionTime := 12
  success := true
  error := none

theorem run_sort_filter_prices :
    (∀ i, prices.columnIndex? "Price" = some i →
      ∀ row ∈ prices.rows, (SortKey.ofCell (cellOf row i)).IsExact) ∧
    (prices.run [.sort "Price" false, .filter [⟨"item", .notEqual, "plum"⟩]]).rows =
      [["fig", "none"], ["nut"], ["pear", "2.50"], ["kiwi", "2.5"]] ∧
    prices.run [.sort "Price" false, .filter [⟨"item", .notEqual, "plum"⟩]] =
      prices.run [.filter [⟨"item", .notEqual, "plum"⟩], .sort "Price" false] := by
  have hindex : prices.columnIndex? "Price" = some 1 := by decide +kernel
  have hexact : ∀ i, prices.columnIndex? "Price" = some i →
      ∀ row ∈ prices.rows, (SortKey.ofCell (cellOf row i)).IsExact := by
    intro i hi
    cases hindex.symm.trans hi
    decide +kernel
  exact ⟨hexact, by decide +kernel, run_sort_filter prices _ _ _ hexact⟩

end Table

end PipeQuery
