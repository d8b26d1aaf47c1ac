import Mathlib.Data.Fintype.EquivFin
import PipeQuery.Proofs.Table.FilterSort
import PipeQuery.Proofs.Table.Invariant

/-! Sorting is stable in both directions. The places of the rows are sorted along with them: where
all keys are exact, the places come out in the order of their keys, and those of one key in their
own order. The descending order is that of the dual keys, so that ties are not reversed. -/

namespace PipeQuery

/-! ### Sorting images -/

section Images

variable {α β : Type}

theorem map_insertFromEnd (before : β → β → Bool) (f : α → β) (x : α) (sorted : List α) :
    (insertFromEnd (fun x y => before (f x) (f y)) x sorted).map f =
      insertFromEnd before (f x) (sorted.map f) := by
  induction sorted with
  | nil => rfl
  | cons y sorted ih =>
    rw [insertFromEnd, List.map_cons, insertFromEnd, ← ih]
    split_ifs <;> rfl

/-- Elements may be sorted by their images and the images taken behind. -/
theorem map_sortStable (before : β → β → Bool) (f : α → β) (xs : List α) :
    (sortStable (fun x y => before (f x) (f y)) xs).map f = sortStable before (xs.map f) := by
  have hfoldl (sorted : List α) :
      (xs.foldl (fun sorted x => insertFromEnd (fun x y => before (f x) (f y)) x sorted)
        sorted).map f =
        (xs.map f).foldl (fun sorted x => insertFromEnd before x sorted) (sorted.map f) := by
    induction xs generalizing sorted with
    | nil => rfl
    | cons x xs ih => rw [List.foldl_cons, ih, map_insertFromEnd, List.map_cons, List.foldl_cons]
  rw [sortStable, sortStable, List.map_reverse, hfoldl, List.map_nil]

/-- Keys that are put beside the elements and taken away again only serve to compare these. -/
theorem sortStable_keyed (before : β → β → Bool) (key : α → β) (xs : List α) :
    (sortStable (fun a b => before a.1 b.1) (xs.map fun x => (key x, x))).map (·.2) =
      sortStable (fun x y => before (key x) (key y)) xs := by
  rw [← map_sortStable (fun a b : β × α => before a.1 b.1) fun x => (key x, x), List.map_map]
  exact List.map_id _

end Images

/-! ### Order and ties -/

section Ranks

variable {α β : Type} [LinearOrder β] {before : α → α → Bool} {rank : α → β} {s : α → Prop}
  {xs sorted : List α}

theorem SortedFromEnd.foldl (hrank : RankedBy before rank s) (hxs : ∀ x ∈ xs, s x)
    (h : SortedFromEnd rank s sorted) :
    SortedFromEnd rank s (xs.foldl (fun sorted x => insertFromEnd before x sorted) sorted) := by
  induction xs generalizing sorted with
  | nil => exact h
  | cons x xs ih =>
    rw [List.forall_mem_cons] at hxs
    exact ih hxs.2 (h.insert hrank hxs.1)

theorem pairwise_sortStable (hrank : RankedBy before rank s) (hxs : ∀ x ∈ xs, s x) :
    (sortStable before xs).Pairwise fun x y => rank x ≤ rank y :=
  List.pairwise_reverse.mpr (SortedFromEnd.nil.foldl hrank hxs).pairwise

/-- A list in which nothing has to come before anything else is left as it is. -/
theorem sortStable_of_tied (h : ∀ x ∈ xs, ∀ y ∈ xs, ¬before x y) : sortStable before xs = xs := by
  have hfoldl (sorted : List α) (hsorted : ∀ x ∈ xs, ∀ y ∈ sorted, ¬before x y) :
      xs.foldl (fun sorted x => insertFromEnd before x sorted) sorted = xs.reverse ++ sorted := by
    induction xs generalizing sorted with
    | nil => rfl
    | cons x xs ih =>
      simp only [List.forall_mem_cons] at h hsorted
      rw [List.foldl_cons, insertFromEnd_eq_cons hsorted.1, ih fun y hy => (h.2 y hy).2]
      · simp
      · exact fun y hy => List.forall_mem_cons.mpr ⟨(h.2 y hy).1, hsorted.2 y hy⟩
  rw [sortStable, hfoldl [] fun _ _ _ hy => absurd hy List.not_mem_nil, List.append_nil,
    List.reverse_reverse]

/-- Elements of one rank stay in the order in which they were. -/
theorem pairwise_sortStable_of_tied (hrank : RankedBy before rank s) (hxs : ∀ x ∈ xs, s x)
    {r : α → α → Prop} (hr : xs.Pairwise r) :
    (sortStable before xs).Pairwise fun x y => rank x = rank y → r x y := by
  rw [List.pairwise_iff_forall_sublist]
  intro x y hxy htied
  -- What has the rank of `x` and `y` is sorted as it stands.
  let p : α → Bool := fun z => rank z = rank x
  have htied' : sortStable before (xs.filter p) = xs.filter p := by
    refine sortStable_of_tied fun z hz w hw => ?_
    obtain ⟨hz, hpz⟩ := List.mem_filter.mp hz
    obtain ⟨hw, hpw⟩ := List.mem_filter.mp hw
    rw [hrank z w (hxs z hz) (hxs w hw), of_decide_eq_true hpz, of_decide_eq_true hpw]
    exact lt_irrefl _
  have hsub : ([x, y].filter p).Sublist ((sortStable before xs).filter p) := hxy.filter p
  rw [filter_sortStable hrank hxs, htied', List.filter_cons_of_pos (by simp [p]),
    List.filter_cons_of_pos (by simp [p, htied]), List.filter_nil] at hsub
  exact List.pairwise_iff_forall_sublist.mp hr (hsub.trans List.filter_sublist)

end Ranks

/-! ### Rows -/

namespace Table

/-- Where a row stands when rows are sorted by a column: numbers by value, then texts by code
points. -/
def placeIn (column : Nat) (row : List String) : ℚ ⊕ₗ List Nat :=
  (SortKey.ofCell (cellOf row column)).place

/-- The places of rows in the order in which sorting puts the rows. -/
def sortedPlaces (column : Nat) (ascending : Bool) (rows : List (List String)) :
    List (Fin rows.length) :=
  sortStable (fun i j => keyBefore ascending (SortKey.ofCell (cellOf (rows.get i) column))
    (SortKey.ofCell (cellOf (rows.get j) column))) (List.finRange rows.length)

variable {column : Nat} {ascending : Bool} {rows : List (List String)}

theorem sortRows_eq_map (column : Nat) (ascending : Bool) (rows : List (List String)) :
    sortRows column ascending rows = (sortedPlaces column ascending rows).map rows.get := by
  rw [sortRows,
    sortStable_keyed (keyBefore ascending) fun row => SortKey.ofCell (cellOf row column),
    sortedPlaces, map_sortStable (fun row row' => keyBefore ascending
      (SortKey.ofCell (cellOf row column)) (SortKey.ofCell (cellOf row' column))) rows.get,
    List.map_get_finRange]

theorem sortedPlaces_perm (column : Nat) (ascending : Bool) (rows : List (List String)) :
    (sortedPlaces column ascending rows).Perm (List.finRange rows.length) := sortStable_perm _ _

/-- The places come in the order of any rank by which keys are compared, and tied ones in their
own. -/
theorem pairwise_sortedPlaces {β : Type} [LinearOrder β] {rank : SortKey → β}
    (hrank : RankedBy (keyBefore ascending) rank SortKey.IsExact)
    (hexact : ∀ row ∈ rows, (SortKey.ofCell (cellOf row column)).IsExact) :
    let key i := rank (SortKey.ofCell (cellOf (rows.get i) column))
    (sortedPlaces column ascending rows).Pairwise fun i j =>
      key i ≤ key j ∧ (key i = key j → i < j) := by
  intro key
  have hplaces := hrank.comap fun i => SortKey.ofCell (cellOf (rows.get i) column)
  have hkeys : ∀ i ∈ List.finRange rows.length,
      SortKey.IsExact (SortKey.ofCell (cellOf (rows.get i) column)) :=
    fun i _ => hexact _ (List.get_mem rows i)
  exact (pairwise_sortStable hplaces hkeys).and
    (pairwise_sortStable_of_tied hplaces hkeys (List.pairwise_lt_finRange rows.length))

theorem pairwise_placeIn_sortedPlaces
    (hexact : ∀ row ∈ rows, (SortKey.ofCell (cellOf row column)).IsExact) (ascending : Bool) :
    let place i := placeIn column (rows.get i)
    (sortedPlaces column ascending rows).Pairwise fun i j =>
      (if ascending then place i ≤ place j else place j ≤ place i) ∧
        (place i = place j → i < j) := by
  intro place
  cases ascending with
  | true =>
    refine (pairwise_sortedPlaces keyBefore_ascending hexact).imp fun h => ⟨?_, h.2⟩
    rw [if_pos rfl]
    exact h.1
  | false =>
    refine (pairwise_sortedPlaces keyBefore_descending hexact).imp fun h =>
      ⟨?_, fun heq => h.2 (congrArg OrderDual.toDual heq)⟩
    rw [if_neg Bool.false_ne_true]
    exact OrderDual.toDual_le_toDual.mp h.1

/-! ### Tables -/

/-- Sorting by a column whose cells are decimals and texts moves the rows so that their keys ascend
or descend, and rows of one key stay in the order in which they were. It changes nothing else, and
without the column nothing at all. -/
theorem sort_stable (t : Table) (column : String) (ascending : Bool) :
    (t.columnIndex? column = none → t.sort column ascending = t) ∧
    ∀ i, t.columnIndex? column = some i →
      (∀ row ∈ t.rows, (SortKey.ofCell (cellOf row i)).IsExact) →
      let s := t.sort column ascending
      (∃ origin : Fin s.rows.length → Fin t.rows.length, Function.Bijective origin ∧
        (∀ r, s.rows.get r = t.rows.get (origin r)) ∧
        ∀ r r', r < r' →
          (if ascending then placeIn i (s.rows.get r) ≤ placeIn i (s.rows.get r')
            else placeIn i (s.rows.get r') ≤ placeIn i (s.rows.get r)) ∧
          (placeIn i (s.rows.get r) = placeIn i (s.rows.get r') → origin r < origin r')) ∧
      s.rowCount = s.rows.length ∧ s.columns = t.columns ∧ s.outcome = t.outcome := by
  refine ⟨fun hnone => by rw [sort, hnone], fun i hi hexact => ?_⟩
  intro s
  have hs : s = t.reshape t.columns (sortRows i ascending t.rows) := by
    show t.sort column ascending = _
    rw [sort, hi]
  refine ⟨?_, by rw [hs]; rfl, by rw [hs]; rfl, by rw [hs]; rfl⟩
  have hrows : s.rows = (sortedPlaces i ascending t.rows).map t.rows.get := by
    rw [hs]
    exact sortRows_eq_map i ascending t.rows
  have hperm := sortedPlaces_perm i ascending t.rows
  have hlen : s.rows.length = (sortedPlaces i ascending t.rows).length := by
    rw [hrows, List.length_map]
  let origin : Fin s.rows.length → Fin t.rows.length :=
    fun r => (sortedPlaces i ascending t.rows).get (r.cast hlen)
  have hget (r : Fin s.rows.length) : s.rows.get r = t.rows.get (origin r) := by
    simp [origin, List.getElem_of_eq hrows]
  have hinjective : Function.Injective origin :=
    (List.nodup_iff_injective_get.mp (hperm.nodup_iff.mpr (List.nodup_finRange _))).comp
      (Fin.cast_injective hlen)
  have hcard : s.rows.length = t.rows.length := by
    rw [hlen, hperm.length_eq, List.length_finRange]
  refine ⟨origin, ?_, hget, fun r r' hlt => ?_⟩
  · exact (Fintype.bijective_iff_injective_and_card origin).mpr ⟨hinjective, by simpa using hcard⟩
  · rw [hget r, hget r']
    exact List.pairwise_iff_get.mp (pairwise_placeIn_sortedPlaces hexact ascending) _ _ hlt

/-- Scores of which some are no numbers, and two are one number written in two ways. -/
def scores : Table where
  columns := ["name", "score"]
  rows := [["Ann", "7.0"], ["Bob", "n/a"], ["Cid"], ["Dot", "10"], ["Eve", "7"], ["Fay", "n/a"]]
  rowCount := 6
  executionTime := 3
  success := true
  error := none

theorem sort_stable_scores :
    scores.columnIndex? "Score" = some 1 ∧
    (∀ row ∈ scores.rows, (SortKey.ofCell (cellOf row 1)).IsExact) ∧
    let s := scores.sort "Score" false
    s.rows = [["Bob", "n/a"], ["Fay", "n/a"], ["Cid"], ["Dot", "10"], ["Ann", "7.0"], ["Eve", "7"]] ∧
    ∃ origin : Fin s.rows.length → Fin scores.rows.length, Function.Bijective origin ∧
      (∀ r, s.rows.get r = scores.rows.get (origin r)) ∧
      ∀ r r', r < r' →
        placeIn 1 (s.rows.get r') ≤ placeIn 1 (s.rows.get r) ∧
        (placeIn 1 (s.rows.get r) = placeIn 1 (s.rows.get r') → origin r < origin r') := by
  have hindex : scores.columnIndex? "Score" = some 1 := by decide +kernel
  have hexact : ∀ row ∈ scores.rows, (SortKey.ofCell (cellOf row 1)).IsExact := by decide +kernel
  exact ⟨hindex, hexact, by decide +kernel,
    ((sort_stable scores "Score" false).2 1 hindex hexact).1⟩

end Table

end PipeQuery
