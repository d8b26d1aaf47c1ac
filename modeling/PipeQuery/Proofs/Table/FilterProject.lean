import PipeQuery.Proofs.Table.Projection

/-! Filtering and projecting in either order. A column that a projection keeps is the one that its
name finds in the table, so a condition on it reads the same cell of a row before and after the
projection, in rows of any length. -/

namespace PipeQuery.Table

variable {t : Table} {names : List String}

theorem cellOf_map_cellOf {kept : List Nat} {p i : Nat} (h : kept[p]? = some i)
    (row : List String) : cellOf (kept.map (cellOf row)) p = cellOf row i := by
  rw [cellOf, List.getElem?_map, h, Option.map_some, Option.getD_some]

/-- A condition on a kept column holds on a projected row if it holds on the row. -/
theorem holdsOn_project {c : Condition} (h : c.column ∈ (t.project names).columns)
    (row : List String) :
    c.holdsOn (t.project names) ((t.projection names).map (cellOf row)) = c.holdsOn t row := by
  obtain ⟨p, i, hp, hi, ht⟩ := exists_columnIndex?_project h
  simp only [Condition.holdsOn, hp, ht, cellOf_map_cellOf hi]

theorem all_holdsOn_project {conditions : List Condition}
    (h : ∀ c ∈ conditions, c.column ∈ (t.project names).columns) (row : List String) :
    (conditions.all fun c =>
        c.holdsOn (t.project names) ((t.projection names).map (cellOf row))) =
      conditions.all fun c => c.holdsOn t row := by
  rw [Bool.eq_iff_iff, List.all_eq_true, List.all_eq_true]
  exact forall₂_congr fun c hc => by rw [holdsOn_project (h c hc)]

theorem filterRows_project {conditions : List Condition}
    (h : ∀ c ∈ conditions, c.column ∈ (t.project names).columns) :
    (t.project names).filterRows conditions = (t.filterRows conditions).project names := by
  have hrows : (t.project names).rows.filter
        (fun row => conditions.all fun c => c.holdsOn (t.project names) row) =
      (t.rows.filter fun row => conditions.all fun c => c.holdsOn t row).map
        fun row => (t.projection names).map (cellOf row) := by
    rw [project, reshape, List.filter_map]
    exact congrArg _ (List.filter_congr fun row _ => all_holdsOn_project h row)
  show t.reshape _ _ = t.reshape _ _
  exact congrArg _ hrows

/-- If each condition names a column of the table, exactly, that the projection keeps, filtering and
projecting may change places. -/
theorem run_project_filter (t : Table) (conditions : List Condition) (names : List String)
    (hkept : ∀ c ∈ conditions, c.column ∈ t.columns ∧ c.column ∈ (t.project names).columns) :
    t.run [.filter conditions, .project names] = t.run [.project names, .filter conditions] := by
  rw [run, run]
  exact ite_congr rfl (fun _ => (filterRows_project fun c hc => (hkept c hc).2).symm) fun _ => rfl

/-- People in rows of several lengths, under names that differ in case only or not at all. -/
def roster : Table where
  columns := ["Name", "name", "age", "name"]
  rows := [["Ann", "b", "30", "x"], ["b"], ["Bo", "B", "7"], ["Cy", "b"]]
  rowCount := 4
  executionTime := 3
  success := true
  error := none

theorem run_project_filter_roster :
    let conditions : List Condition := [⟨"name", .equal, "b"⟩, ⟨"age", .less, "10"⟩]
    let names := ["AGE", "name", "NAME", "nAme"]
    (∀ c ∈ conditions, c.column ∈ roster.columns ∧ c.column ∈ (roster.project names).columns) ∧
    (roster.run [.project names, .filter conditions]).columns = ["age", "name", "Name"] ∧
    (roster.run [.project names, .filter conditions]).rows = [["7", "B", "Bo"], ["", "b", "Cy"]] ∧
    roster.run [.filter conditions, .project names] =
      roster.run [.project names, .filter conditions] := by
  intro conditions names
  have hkept : ∀ c ∈ conditions,
      c.column ∈ roster.columns ∧ c.column ∈ (roster.project names).columns := by
    decide +kernel
  exact ⟨hkept, by decide +kernel, by decide +kernel,
    run_project_filter roster conditions names hkept⟩

end PipeQuery.Table
