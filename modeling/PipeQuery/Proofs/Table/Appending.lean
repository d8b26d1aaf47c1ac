import PipeQuery.Proofs.Table.Composition

/-! New columns. A column is appended to the columns and its value to each row, so in a row the
value stands behind the last cell, wherever that is. It is the cell of the new column, and all other
cells stay as they are, exactly in the rows that are as long as the columns were. -/

namespace PipeQuery.Table

variable {t : Table} {column expression : String} {row : List String} {r : Nat}

theorem cell?_of_getElem? (h : t.rows[r]? = some row) (j : Nat) : t.cell? r j = row[j]? := by
  simp [cell?, h]

theorem extend_of_notMem (h : column ∉ t.columns) (expression : String) :
    t.extend column expression = t.reshape (t.columns ++ [column])
      (t.rows.map fun row =>
        row ++ [extensionValue (t.columnIndex? expression) expression row]) := by
  rw [extend, findIdx?_eq_none_iff_notMem.mpr h]

theorem columnIndex?_extend (h : column ∉ t.columns) (expression : String) :
    (t.extend column expression).columnIndex? column = some t.columns.length := by
  rw [extend_of_notMem h]
  refine columnIndex?_eq_some_iff.mpr (.inl ⟨⟨column, List.getElem?_concat_length, rfl⟩, ?_⟩)
  rintro j hj _ hy rfl
  rw [reshape, List.getElem?_append_left hj] at hy
  exact h (List.mem_of_getElem? hy)

/-- In the row `r`, the table `s` shows the value in one column and in all others what `t` shows. -/
def SetsCell (t s : Table) (r column : Nat) (value : String) : Prop :=
  s.cell? r column = some value ∧ ∀ j, j ≠ column → s.cell? r j = t.cell? r j

/-- A row whose value stands in one column has no other one in which it stands alone. -/
theorem SetsCell.column_eq {s : Table} {value value' : String} {i j : Nat}
    (hi : t.SetsCell s r i value) (hj : t.SetsCell s r j value') (habsent : t.cell? r i = none) :
    i = j := by
  by_contra hne
  have hkept := hj.2 i hne
  rw [hi.1, habsent] at hkept
  cases hkept

theorem setsCell_extend (h : column ∉ t.columns) (expression : String)
    (hrow : t.rows[r]? = some row) :
    t.SetsCell (t.extend column expression) r row.length
      (extensionValue (t.columnIndex? expression) expression row) := by
  have hnew : (t.extend column expression).rows[r]? =
      some (row ++ [extensionValue (t.columnIndex? expression) expression row]) := by
    rw [extend_of_notMem h, reshape, List.getElem?_map, hrow, Option.map_some]
  refine ⟨(cell?_of_getElem? hnew _).trans List.getElem?_concat_length, fun j hj => ?_⟩
  rw [cell?_of_getElem? hnew, cell?_of_getElem? hrow]
  rcases Nat.lt_or_gt_of_ne hj with hlt | hgt
  · exact List.getElem?_append_left hlt
  · rw [List.getElem?_eq_none (by simp; omega), List.getElem?_eq_none (Nat.le_of_lt hgt)]

/-- The value of an extension in a row is the cell of the column that the expression names, or the
expression. -/
theorem extensionValue_eq (hrow : t.rows[r]? = some row) (source : Option Nat) :
    extensionValue source expression row =
      source.elim expression fun i => (t.cell? r i).getD "" := by
  cases source with
  | none => rfl
  | some i => rw [Option.elim_some, cell?_of_getElem? hrow]; rfl

/-- A new column comes behind the others, and in each row its value comes behind the other cells. It
fills the new column and no other exactly in the rows that are as long as the columns were. -/
theorem run_extend_new (t : Table) (column expression : String) (hsuccess : t.success = true)
    (hnew : column ∉ t.columns) :
    let result := t.run [.extend column expression]
    result.columns = t.columns ++ [column] ∧
    result.columnIndex? column = some t.columns.length ∧
    result.rows.length = t.rows.length ∧
    ∀ r row, t.rows[r]? = some row →
      let value := (t.columnIndex? expression).elim expression fun i => (t.cell? r i).getD ""
      t.SetsCell result r row.length value ∧
      (t.SetsCell result r t.columns.length value ↔ row.length = t.columns.length) := by
  intro result
  have hresult : result = t.extend column expression := run_of_success hsuccess _
  rw [hresult]
  refine ⟨?_, columnIndex?_extend hnew expression, ?_, fun r row hrow => ?_⟩
  · rw [extend_of_notMem hnew, reshape]
  · rw [extend_of_notMem hnew, reshape, List.length_map]
  · have hset := setsCell_extend hnew expression hrow
    rw [extensionValue_eq hrow] at hset
    have habsent : t.cell? r row.length = none := by
      rw [cell?_of_getElem? hrow, List.getElem?_eq_none (Nat.le_refl _)]
    exact ⟨hset, fun hfills => hset.column_eq hfills habsent, fun hlen => hlen ▸ hset⟩

/-- Two columns over a row that is as long, one that is shorter and one that is longer. -/
def unevenRows : Table := .ofRows ["a", "b"] [["1", "2"], ["3"], ["4", "5", "6"]]

theorem run_extend_new_unevenRows :
    unevenRows.success = true ∧ "c" ∉ unevenRows.columns ∧
    unevenRows.rows[0]? = some ["1", "2"] ∧
    unevenRows.SetsCell (unevenRows.run [.extend "c" "A"]) 0 2 "1" ∧
    unevenRows.rows[1]? = some ["3"] ∧
    unevenRows.SetsCell (unevenRows.run [.extend "c" "A"]) 1 1 "3" := by
  have hnew : "c" ∉ unevenRows.columns := by decide
  obtain ⟨-, -, -, hrows⟩ := run_extend_new unevenRows "c" "A" rfl hnew
  exact ⟨rfl, hnew, rfl, (hrows 0 ["1", "2"] rfl).2.mpr rfl, rfl, (hrows 1 ["3"] rfl).1⟩

/-- The short row gets the value as its cell of column `b` and none in the new column, and the long
one shows in the new column the cell that stood there before. -/
theorem run_extend_new_misplaced :
    let result := unevenRows.run [.extend "c" "A"]
    result.columns = ["a", "b", "c"] ∧
    result.rows = [["1", "2", "1"], ["3", "3"], ["4", "5", "6", "4"]] ∧
    (result.cell? 1 2 = none ∧ unevenRows.cell? 1 1 = none ∧ result.cell? 1 1 = some "3") ∧
    result.cell? 2 2 = some "6" ∧ unevenRows.cell? 2 0 = some "4" := by
  decide +kernel

end PipeQuery.Table
