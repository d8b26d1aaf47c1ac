import PipeQuery.Proofs.Table.Appending

/-! Extending twice. The first extension may add the column that the expression names, in any
spelling, so the second one may read another column than the first. It then reads the column that
the first one has set, and writes each cell back where it was. -/

namespace PipeQuery.Table

variable {t : Table} {column expression name : String} {row : List String} {i j : Nat}

/-! ### Cells that are written back -/

/-- Writing a cell back changes nothing, also where the row is too short to have it. -/
theorem set_cellOf_self (row : List String) (i : Nat) : row.set i (cellOf row i) = row := by
  by_cases hlt : i < row.length
  · simp [cellOf, hlt]
  · exact List.set_eq_of_length_le (Nat.le_of_not_lt hlt)

theorem cellOf_set_of_ne (h : i ≠ j) (row : List String) (value : String) :
    cellOf (row.set i value) j = cellOf row j := by
  rw [cellOf, List.getElem?_set_ne h, cellOf]

theorem cellOf_append_of_lt (h : j < row.length) (value : String) :
    cellOf (row ++ [value]) j = cellOf row j := by
  rw [cellOf, List.getElem?_append_left h, cellOf]

theorem cellOf_append_length (row : List String) (value : String) :
    cellOf (row ++ [value]) row.length = value := by
  rw [cellOf, List.getElem?_concat_length, Option.getD_some]

/-! ### Values that are read again -/

/-- A column that takes the cells of another one, or of itself, leaves that one as it is. -/
theorem extensionValue_set (source : Option Nat) (expression : String) (row : List String)
    (i : Nat) :
    extensionValue source expression (row.set i (extensionValue source expression row)) =
      extensionValue source expression row := by
  cases source with
  | none => rfl
  | some j =>
    by_cases hij : i = j
    · rw [hij]
      exact congrArg (cellOf · j) (set_cellOf_self row j)
    · exact cellOf_set_of_ne hij row _

/-- Behind the addition of a column, a name finds the column that it found before or the new one. -/
theorem columnIndex?_of_append {s : Table} (hs : s.columns = t.columns ++ [column]) (name : String) :
    s.columnIndex? name = t.columnIndex? name ∨ s.columnIndex? name = some t.columns.length := by
  rw [columnIndex?, columnIndex?, hs, List.findIdx?_append, List.findIdx?_append]
  cases hexact : t.columns.findIdx? (· = name) with
  | some i => exact .inl rfl
  | none =>
    by_cases hown : column = name
    · exact .inr (by simp [List.findIdx?_cons, hown])
    · cases t.columns.findIdx? (Unicode.lowercase · = Unicode.lowercase name) with
      | some i => exact .inl (by simp [List.findIdx?_cons, hown])
      | none =>
        by_cases hlower : Unicode.lowercase column = Unicode.lowercase name
        · exact .inr (by simp [List.findIdx?_cons, hown, hlower])
        · exact .inl (by simp [List.findIdx?_cons, hown, hlower])

/-- A row that was as long as the columns gives the new column the same value again. -/
theorem extensionValue_append (hlength : row.length = t.columns.length) {s : Table}
    (hs : s.columns = t.columns ++ [column]) :
    extensionValue (s.columnIndex? expression) expression
        (row ++ [extensionValue (t.columnIndex? expression) expression row]) =
      extensionValue (t.columnIndex? expression) expression row := by
  rcases columnIndex?_of_append hs expression with hsame | hnew
  · rw [hsame]
    cases hsource : t.columnIndex? expression with
    | none => rfl
    | some j => exact cellOf_append_of_lt (hlength ▸ columnIndex?_lt hsource) _
  · rw [hnew, ← hlength]
    exact cellOf_append_length row _

/-! ### Repeated extensions -/

theorem extend_of_mem (h : column ∈ t.columns) (hi : t.columnIndex? column = some i)
    (expression : String) :
    t.extend column expression = t.reshape t.columns (t.rows.map fun row =>
      row.set i (extensionValue (t.columnIndex? expression) expression row)) := by
  have hfind : t.columns.findIdx? (· = column) = some i := by
    rcases columnIndex?_eq_some_iff.mp hi with hfirst | ⟨hnot, -⟩
    · exact findIdx?_eq_some_iff_firstAt.mpr hfirst
    · exact absurd h hnot
  rw [extend, hfind]

/-- An extension that writes to each row what stands there changes nothing. -/
theorem extend_eq_self (h : column ∈ t.columns) (hi : t.columnIndex? column = some i)
    (hcount : t.rowCount = t.rows.length)
    (hrows : ∀ row ∈ t.rows,
      row.set i (extensionValue (t.columnIndex? expression) expression row) = row) :
    t.extend column expression = t := by
  have hmap : t.rows.map
      (fun row => row.set i (extensionValue (t.columnIndex? expression) expression row)) =
        t.rows := by
    conv_rhs => rw [← List.map_id t.rows]
    exact List.map_congr_left hrows
  rw [extend_of_mem h hi, hmap, reshape, ← hcount]

/-- A column that is there is set to the same cells again. -/
theorem extend_extend_of_mem (h : column ∈ t.columns) (expression : String) :
    (t.extend column expression).extend column expression = t.extend column expression := by
  obtain ⟨i, hi, -⟩ := exists_columnIndex?_of_mem h
  rw [extend_of_mem h hi expression]
  refine extend_eq_self h hi rfl ?_
  show ∀ row ∈ t.rows.map _, _
  rw [List.forall_mem_map]
  intro row _
  rw [List.set_set]
  exact congrArg (row.set i) (extensionValue_set _ _ _ _)

/-- A column that was added is set to the same cells again. A row that was too short for it has no
cell of it, and the second extension gives it none. -/
theorem extend_extend_of_notMem (h : column ∉ t.columns)
    (hrows : ∀ row ∈ t.rows, row.length ≤ t.columns.length) :
    (t.extend column expression).extend column expression = t.extend column expression := by
  have hi := columnIndex?_extend h expression
  rw [extend_of_notMem h] at hi ⊢
  refine extend_eq_self (List.mem_append_right _ List.mem_cons_self) hi rfl ?_
  show ∀ row ∈ t.rows.map _, _
  rw [List.forall_mem_map]
  intro row hrow
  rcases Nat.lt_or_eq_of_le (hrows row hrow) with hlt | hlength
  · exact List.set_eq_of_length_le (by rw [List.length_append]; exact hlt)
  · rw [extensionValue_append hlength (by rfl), ← hlength]
    simp

/-- Extending twice is extending once, however the expression is read before and after, in tables
whose rows are no longer than their columns. -/
theorem run_extend_twice (t : Table) (column expression : String)
    (hrows : ∀ row ∈ t.rows, row.length ≤ t.columns.length) :
    t.run [.extend column expression, .extend column expression] =
      t.run [.extend column expression] := by
  cases hsuccess : t.success with
  | false => rw [run_of_failure hsuccess, run_of_failure hsuccess]
  | true =>
    rw [run_of_success hsuccess, run_of_success hsuccess]
    by_cases hmem : column ∈ t.columns
    · exact extend_extend_of_mem hmem expression
    · exact extend_extend_of_notMem hmem hrows

/-- The name finds the column `Id` first and then the column that was made of it. -/
theorem run_extend_twice_renamed :
    let t : Table := .ofRows ["Id", "tag"] [["1", "x"], ["2", "y"]]
    (∀ row ∈ t.rows, row.length ≤ t.columns.length) ∧
    t.columnIndex? "id" = some 0 ∧ (t.run [.extend "id" "id"]).columnIndex? "id" = some 2 ∧
    t.run [.extend "id" "id", .extend "id" "id"] =
      .ofRows ["Id", "tag", "id"] [["1", "x", "1"], ["2", "y", "2"]] := by
  intro t
  have hrows : ∀ row ∈ t.rows, row.length ≤ t.columns.length := by decide
  exact ⟨hrows, by decide +kernel, by decide +kernel,
    (run_extend_twice t "id" "id" hrows).trans (by decide +kernel)⟩

end PipeQuery.Table
