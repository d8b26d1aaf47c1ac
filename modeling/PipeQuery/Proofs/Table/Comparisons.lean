import PipeQuery.Proofs.Table.Composition
import PipeQuery.Proofs.Table.NumericConditions

/-! Comparing the cells of a column with a value. A cell and a value have one order, as numbers or as
texts, whichever comparator asks and from whichever side. So the rows that are less, equal and
greater make up the table, each of the other three comparators keeps what one of these drops, and
turning a comparison round turns its comparator round. -/

namespace PipeQuery

/-! ### The order of a cell and a value -/

/-- A cell and a value are compared as numbers from both sides or from neither. -/
theorem cellOrder_swap (a b : String) : cellOrder a b = (cellOrder b a).swap := by
  rw [cellOrder, cellOrder]
  cases CellNumber.read? a with
  | none => cases CellNumber.read? b <;> exact textOrder_swap _ _
  | some x =>
    cases CellNumber.read? b with
    | none => exact textOrder_swap _ _
    | some y => exact x.order_swap y

theorem cellOrder_self (a : String) : cellOrder a a = .eq :=
  Ordering.eq_eq_of_eq_swap (cellOrder_swap a a)

namespace Comparator

/-- One of the three cases of an order holds. -/
theorem existsUnique_holds (o : Ordering) :
    ∃! c, c ∈ [less, equal, greater] ∧ holds c o = true := by
  cases o with
  | lt => exact ⟨less, by simp [holds], by rintro c ⟨hc, hholds⟩; cases c <;> simp_all [holds]⟩
  | eq => exact ⟨equal, by simp [holds], by rintro c ⟨hc, hholds⟩; cases c <;> simp_all [holds]⟩
  | gt => exact ⟨greater, by simp [holds], by rintro c ⟨hc, hholds⟩; cases c <;> simp_all [holds]⟩

/-- A comparator and the one that holds of all orders of which it does not. -/
theorem holds_opposite (o : Ordering) :
    holds notEqual o = !holds equal o ∧ holds greaterEqual o = !holds less o ∧
      holds lessEqual o = !holds greater o := by
  cases o <;> decide

/-- Every cell is equal to itself, and comparisons can be turned round. -/
theorem test_swap (a b : String) :
    test a equal a = true ∧ test a equal b = test b equal a ∧ test a less b = test b greater a := by
  have htest {c : Comparator} (hc : c.isOrdering = true) (x y : String) :
      test x c y = c.holds (cellOrder x y) := test_eq_holds hc
  rw [htest rfl a a, htest rfl a b, htest rfl b a, htest rfl a b, htest rfl b a, cellOrder_self,
    cellOrder_swap b a]
  cases cellOrder a b <;> decide

end Comparator

/-! ### Rows by their order -/

section Sides

variable {α : Type} (side : α → Ordering) (rows : List α)

/-- The elements of the three sides are all elements. -/
theorem filter_sides_perm :
    (rows.filter (fun row => Comparator.less.holds (side row)) ++
      rows.filter (fun row => Comparator.equal.holds (side row)) ++
      rows.filter (fun row => Comparator.greater.holds (side row))).Perm rows := by
  have hrest : rows.filter (fun row => Comparator.equal.holds (side row)) ++
      rows.filter (fun row => Comparator.greater.holds (side row)) =
      (rows.filter fun row => !Comparator.less.holds (side row)).filter
          (fun row => Comparator.equal.holds (side row)) ++
        (rows.filter fun row => !Comparator.less.holds (side row)).filter
          (fun row => !Comparator.equal.holds (side row)) := by
    rw [List.filter_filter, List.filter_filter]
    congr 2 <;> funext row <;> cases side row <;> rfl
  rw [List.append_assoc, hrest]
  exact ((List.filter_append_perm _ _).append_left _).trans (List.filter_append_perm _ rows)

end Sides

namespace Table

variable {t : Table} {column value : String} {i : Nat}

/-- The rows that a condition on one column keeps. -/
def keptBy (t : Table) (column : String) (c : Comparator) (value : String) : List (List String) :=
  (t.run [.filter [⟨column, c, value⟩]]).rows

theorem keptBy_eq (hsuccess : t.success = true) (column : String) (c : Comparator)
    (value : String) :
    t.keptBy column c value = t.rows.filter fun row => (Condition.mk column c value).holdsOn t row := by
  have hall (row : List String) : ([⟨column, c, value⟩] : List Condition).all
      (fun c => c.holdsOn t row) = (Condition.mk column c value).holdsOn t row := by
    rw [List.all_cons, List.all_nil, Bool.and_true]
  rw [keptBy, run_of_success hsuccess]
  show t.rows.filter _ = _
  simp only [hall]

theorem keptBy_of_column (hsuccess : t.success = true) (hi : t.columnIndex? column = some i)
    {c : Comparator} (hc : c.isOrdering = true) :
    t.keptBy column c value = t.rows.filter fun row => c.holds (cellOrder (cellOf row i) value) := by
  rw [keptBy_eq hsuccess]
  refine List.filter_congr fun row _ => ?_
  rw [Condition.holdsOn, hi]
  exact Comparator.test_eq_holds hc

theorem keptBy_of_none (hsuccess : t.success = true) (hnone : t.columnIndex? column = none)
    (c : Comparator) : t.keptBy column c value = [] := by
  rw [keptBy_eq hsuccess, List.filter_eq_nil_iff]
  simp [Condition.holdsOn, hnone]

/-- A comparator that holds where another one does not keeps the rows that the other one drops. -/
theorem keptBy_eq_dropped {p q : Comparator} (hsuccess : t.success = true)
    (hi : t.columnIndex? column = some i) (hp : p.isOrdering = true) (hq : q.isOrdering = true)
    (hpq : ∀ o, p.holds o = !q.holds o) :
    t.keptBy column p value = t.rows.filter (· ∉ t.keptBy column q value) := by
  rw [keptBy_of_column hsuccess hi hp, keptBy_of_column hsuccess hi hq]
  refine List.filter_congr fun row hrow => ?_
  rw [hpq]
  simp [hrow]

/-- Each row is less than the value, equal to it or greater, in exactly one way, and the other three
comparators keep the rows that these drop. Without the column no row is kept. -/
theorem run_comparisons (t : Table) (column value : String) (hsuccess : t.success = true) :
    ((t.columnIndex? column).isSome →
      (∀ row ∈ t.rows, ∃! c, c ∈ [.less, .equal, .greater] ∧ row ∈ t.keptBy column c value) ∧
      (t.keptBy column .less value ++ t.keptBy column .equal value ++
        t.keptBy column .greater value).Perm t.rows ∧
      t.keptBy column .notEqual value = t.rows.filter (· ∉ t.keptBy column .equal value) ∧
      t.keptBy column .greaterEqual value = t.rows.filter (· ∉ t.keptBy column .less value) ∧
      t.keptBy column .lessEqual value = t.rows.filter (· ∉ t.keptBy column .greater value)) ∧
    (t.columnIndex? column = none → ∀ c, t.keptBy column c value = []) ∧
    ∀ a b : String, Comparator.test a .equal a = true ∧
      Comparator.test a .equal b = Comparator.test b .equal a ∧
      Comparator.test a .less b = Comparator.test b .greater a := by
  refine ⟨fun hsome => ?_, keptBy_of_none hsuccess, Comparator.test_swap⟩
  obtain ⟨i, hi⟩ := Option.isSome_iff_exists.mp hsome
  have hkept {c : Comparator} (hc : c.isOrdering = true) :
      t.keptBy column c value = t.rows.filter fun row => c.holds (cellOrder (cellOf row i) value) :=
    keptBy_of_column hsuccess hi hc
  refine ⟨fun row hrow => ?_, ?_, keptBy_eq_dropped hsuccess hi rfl rfl ?_,
    keptBy_eq_dropped hsuccess hi rfl rfl ?_, keptBy_eq_dropped hsuccess hi rfl rfl ?_⟩
  · have hmem (c : Comparator) (hc : c ∈ [.less, .equal, .greater]) :
        row ∈ t.keptBy column c value ↔ c.holds (cellOrder (cellOf row i) value) = true := by
      have hordering : c.isOrdering = true := by revert c; decide
      rw [hkept hordering, List.mem_filter, and_iff_right hrow]
    refine (existsUnique_congr fun c => and_congr_right (hmem c)).mpr ?_
    exact Comparator.existsUnique_holds _
  · rw [hkept rfl, hkept rfl, hkept rfl]
    exact filter_sides_perm (fun row => cellOrder (cellOf row i) value) t.rows
  · exact fun o => (Comparator.holds_opposite o).1
  · exact fun o => (Comparator.holds_opposite o).2.1
  · exact fun o => (Comparator.holds_opposite o).2.2

/-- Zeros with and without a sign, one of them as a binary number, a number that is too large to be
one, a text and a row without a cell. -/
def readings : Table :=
  .ofRows ["n"] [["-0"], ["0.0"], ["-0e-99"], ["1e999"], ["zero"], []]

theorem run_comparisons_readings :
    readings.success = true ∧ (readings.columnIndex? "N").isSome ∧
    readings.keptBy "N" .less "0" = [["-0e-99"], []] ∧
    readings.keptBy "N" .equal "0" = [["-0"], ["0.0"]] ∧
    readings.keptBy "N" .greater "0" = [["1e999"], ["zero"]] ∧
    readings.keptBy "N" .greaterEqual "0" =
      readings.rows.filter (· ∉ readings.keptBy "N" .less "0") ∧
    ∀ c, readings.keptBy "m" c "0" = [] := by
  obtain ⟨hcolumn, -⟩ := run_comparisons readings "N" "0" rfl
  obtain ⟨-, hnone, -⟩ := run_comparisons readings "m" "0" rfl
  have hsome : (readings.columnIndex? "N").isSome := by decide +kernel
  exact ⟨rfl, hsome, by decide +kernel, by decide +kernel, by decide +kernel,
    (hcolumn hsome).2.2.2.1, hnone (by decide +kernel)⟩

end Table

end PipeQuery
