import PipeQuery.Proofs.Table.Invariant

/-! Pipelines in parts. A run asks once whether its table comes from a success, and no operator
changes the answer, so a run may be cut anywhere: the second part asks again and goes on as the
whole run would. -/

namespace PipeQuery.Table

variable {t : Table}

theorem run_of_success (h : t.success = true) (operators : List Operator) :
    t.run operators = operators.foldl apply t := if_pos h

theorem run_of_failure (h : t.success = false) (operators : List Operator) :
    t.run operators = t := if_neg (by simp [h])

@[simp] theorem run_nil (t : Table) : t.run [] = t := ite_self t

/-! ### Outcomes -/

theorem outcome_foldl (t : Table) (operators : List Operator) :
    (operators.foldl apply t).outcome = t.outcome := by
  induction operators generalizing t with
  | nil => rfl
  | cons operator operators ih => rw [List.foldl_cons, ih, outcome_apply]

/-- A run says about the call what its first table says. -/
theorem outcome_run (t : Table) (operators : List Operator) :
    (t.run operators).outcome = t.outcome := by
  rw [run]
  split_ifs
  · exact t.outcome_foldl operators
  · rfl

theorem success_run (t : Table) (operators : List Operator) :
    (t.run operators).success = t.success :=
  congrArg Outcome.success (t.outcome_run operators)

/-! ### Parts of a run -/

theorem run_append (t : Table) (xs ys : List Operator) :
    t.run (xs ++ ys) = (t.run xs).run ys := by
  cases h : t.success with
  | false => rw [run_of_failure h, run_of_failure h, run_of_failure h]
  | true =>
    have hxs : (t.run xs).success = true := (t.success_run xs).trans h
    rw [run_of_success h, run_of_success hxs, run_of_success h, List.foldl_append]

theorem foldl_run_singleton (t : Table) (operators : List Operator) :
    operators.foldl (fun s operator => s.run [operator]) t = t.run operators := by
  induction operators generalizing t with
  | nil => exact t.run_nil.symm
  | cons operator operators ih =>
    rw [List.foldl_cons, ih, ← run_append, List.singleton_append]

/-- A pipeline may be run in two parts or one operator at a time. It keeps success and failure as
they are, and changes nothing in a table of a failure. -/
theorem run_in_parts (t : Table) :
    (∀ xs ys, t.run (xs ++ ys) = (t.run xs).run ys) ∧
    (∀ operators, operators.foldl (fun s operator => s.run [operator]) t = t.run operators) ∧
    (∀ operators, (t.run operators).success = t.success) ∧
    (t.success = false → ∀ operators, t.run operators = t) :=
  ⟨t.run_append, t.foldl_run_singleton, t.success_run, run_of_failure⟩

/-- A table that says it failed is kept with all its rows. -/
theorem run_in_parts_failure :
    let t : Table := ⟨["n"], [["10"], ["9"]], 2, 7, false, none⟩
    t.success = false ∧ ∀ operators, t.run operators = t :=
  ⟨rfl, (run_in_parts _).2.2.2 rfl⟩

end PipeQuery.Table
