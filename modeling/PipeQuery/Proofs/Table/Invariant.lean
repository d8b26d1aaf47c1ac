import PipeQuery.Proofs.Json.Names
import PipeQuery.Proofs.Table.Projection
import PipeQuery.Proofs.Table.Sorting

/-! What every table of a run has in common. The rows are counted, are as long as the columns,
and the columns have distinct names: tables from JSON are made so, and each operator keeps it. No
operator changes what the table says about its call. -/

namespace PipeQuery

namespace Table

variable {t : Table}

/-- The rows are counted, each is as long as the columns, and no two columns have one name. -/
structure WellFormed (t : Table) : Prop where
  rowCount_eq : t.rowCount = t.rows.length
  row_length : ∀ row ∈ t.rows, row.length = t.columns.length
  columns_nodup : t.columns.Nodup

/-- What a table says about the call that it comes from. -/
structure Outcome where
  executionTime : Int
  success : Bool
  error : Option String
deriving DecidableEq, Repr

def outcome (t : Table) : Outcome := ⟨t.executionTime, t.success, t.error⟩

/-! ### Making tables -/

theorem reshape_wellFormed {columns : List String} {rows : List (List String)}
    (hrows : ∀ row ∈ rows, row.length = columns.length) (hcolumns : columns.Nodup) :
    (t.reshape columns rows).WellFormed := ⟨rfl, hrows, hcolumns⟩

theorem ofRows_wellFormed {columns : List String} {rows : List (List String)}
    (hrows : ∀ row ∈ rows, row.length = columns.length) (hcolumns : columns.Nodup) :
    (ofRows columns rows).WellFormed := ⟨rfl, hrows, hcolumns⟩

theorem empty_wellFormed : empty.WellFormed :=
  ofRows_wellFormed (fun _ h => absurd h List.not_mem_nil) List.nodup_nil

theorem failed_wellFormed (error : String) : (failed error).WellFormed :=
  ⟨rfl, fun _ h => absurd h List.not_mem_nil, List.nodup_nil⟩

theorem WellFormed.withExecutionTime (h : t.WellFormed) (milliseconds : Int) :
    (t.withExecutionTime milliseconds).WellFormed :=
  ⟨h.rowCount_eq, h.row_length, h.columns_nodup⟩

/-! ### Tables from JSON -/

theorem addNames_nodup {names : List String} (h : names.Nodup) (more : List String) :
    (addNames names more).Nodup := by
  induction more generalizing names with
  | nil => exact h
  | cons n more ih =>
    rw [addNames]
    apply ih
    split_ifs with hmem
    · exact h
    · exact nodup_append_new h hmem

theorem columnsOf_nodup (items : List Json) : (columnsOf items).Nodup :=
  List.foldlRecOn items _ List.nodup_nil fun _ hnames _ _ => addNames_nodup hnames _

theorem ofItems_wellFormed (items : List Json) : (ofItems items).WellFormed := by
  rw [ofItems]
  split_ifs
  · exact empty_wellFormed
  · refine ofRows_wellFormed ?_ (columnsOf_nodup items)
    rw [List.forall_mem_map]
    exact fun x _ => List.length_map _
  · refine ofRows_wellFormed ?_ (List.nodup_singleton _)
    rw [List.forall_mem_map]
    exact fun x _ => rfl

/-- A JSON value without repeated names makes a well-formed table, whatever its shape. -/
theorem ofJson_wellFormed {x : Json} (h : x.Distinct) : (ofJson x).WellFormed := by
  have hsingle (s : String) : (ofRows [valueColumn] [[s]]).WellFormed :=
    ofRows_wellFormed (List.forall_mem_singleton.mpr rfl) (List.nodup_singleton _)
  cases x with
  | null => exact empty_wellFormed
  | bool b => exact hsingle _
  | number n => exact hsingle _
  | string s => exact hsingle _
  | array items => exact ofItems_wellFormed items
  | object members =>
    rw [ofJson]
    split
    · exact ofItems_wellFormed _
    · refine ofRows_wellFormed (List.forall_mem_singleton.mpr ?_) h.names_nodup
      rw [List.length_map, List.length_map]

theorem ofText_wellFormed (json : String) (milliseconds : Int) :
    (ofText json milliseconds).WellFormed := by
  rw [ofText]
  apply WellFormed.withExecutionTime
  split
  · next x hparse => exact ofJson_wellFormed (Json.parse_distinct hparse)
  · exact failed_wellFormed _

/-! ### Operators -/

theorem WellFormed.filterRows (h : t.WellFormed) (conditions : List Condition) :
    (t.filterRows conditions).WellFormed :=
  reshape_wellFormed (fun row hrow => h.row_length row (List.mem_of_mem_filter hrow))
    h.columns_nodup

/-- Whatever a table is like, its projections are well formed. -/
theorem project_wellFormed (t : Table) (names : List String) : (t.project names).WellFormed := by
  refine reshape_wellFormed ?_ (t.nodup_columns_project names)
  rw [List.forall_mem_map]
  intro row _
  rw [List.length_map, List.length_map]

theorem WellFormed.take (h : t.WellFormed) (n : Nat) : (t.take n).WellFormed :=
  reshape_wellFormed (fun row hrow => h.row_length row (List.mem_of_mem_take hrow))
    h.columns_nodup

theorem WellFormed.sort (h : t.WellFormed) (column : String) (ascending : Bool) :
    (t.sort column ascending).WellFormed := by
  rw [Table.sort]
  split
  · exact h
  · next i _ =>
    refine reshape_wellFormed (fun row hrow => ?_) h.columns_nodup
    exact h.row_length row ((sortRows_perm i ascending t.rows).mem_iff.mp hrow)

theorem count_wellFormed (t : Table) : t.count.WellFormed :=
  reshape_wellFormed (List.forall_mem_singleton.mpr rfl) (List.nodup_singleton _)

/-- An extension either keeps all lengths and names, or makes the columns and each row longer by
one, under a name that was not there. -/
theorem WellFormed.extend (h : t.WellFormed) (column expression : String) :
    (t.extend column expression).WellFormed := by
  rw [Table.extend]
  split
  · refine reshape_wellFormed ?_ h.columns_nodup
    rw [List.forall_mem_map]
    intro row hrow
    rw [List.length_set, h.row_length row hrow]
  · next hnone =>
    have hnew : column ∉ t.columns := findIdx?_eq_none_iff_notMem.mp hnone
    refine reshape_wellFormed ?_ (nodup_append_new h.columns_nodup hnew)
    rw [List.forall_mem_map]
    intro row hrow
    rw [List.length_append, List.length_append, h.row_length row hrow]
    rfl

/-- Each operator keeps a table well formed. -/
theorem WellFormed.apply (h : t.WellFormed) (operator : Operator) :
    (t.apply operator).WellFormed := by
  cases operator with
  | filter conditions => exact h.filterRows conditions
  | project names => exact t.project_wellFormed names
  | take n => exact h.take n
  | sort column ascending => exact h.sort column ascending
  | count => exact t.count_wellFormed
  | extend column expression => exact h.extend column expression

theorem outcome_sort (t : Table) (column : String) (ascending : Bool) :
    (t.sort column ascending).outcome = t.outcome := by
  rw [sort]
  split <;> rfl

theorem outcome_extend (t : Table) (column expression : String) :
    (t.extend column expression).outcome = t.outcome := by
  rw [extend]
  split <;> rfl

/-- No operator changes what the table says about its call. -/
theorem outcome_apply (t : Table) (operator : Operator) :
    (t.apply operator).outcome = t.outcome := by
  cases operator with
  | filter conditions => rfl
  | project names => rfl
  | take n => rfl
  | sort column ascending => exact t.outcome_sort column ascending
  | count => rfl
  | extend column expression => exact t.outcome_extend column expression

/-! ### Runs -/

/-- The tables of a run: the one that it starts from, and the one after each operator. A table of
a failure is the only one of its run. -/
def steps (t : Table) (operators : List Operator) : List Table :=
  if t.success then operators.scanl apply t else [t]

theorem getLast?_steps (t : Table) (operators : List Operator) :
    (t.steps operators).getLast? = some (t.run operators) := by
  rw [steps, run]
  split_ifs
  · exact List.getLast?_scanl
  · rfl

theorem run_mem_steps (t : Table) (operators : List Operator) :
    t.run operators ∈ t.steps operators :=
  List.mem_of_getLast? (t.getLast?_steps operators)

theorem WellFormed.scanl_apply (h : t.WellFormed) (operators : List Operator) :
    ∀ s ∈ operators.scanl Table.apply t, s.WellFormed ∧ s.outcome = t.outcome := by
  induction operators generalizing t with
  | nil =>
    rw [List.scanl_nil, List.forall_mem_singleton]
    exact ⟨h, rfl⟩
  | cons operator operators ih =>
    rw [List.scanl_cons, List.forall_mem_cons]
    refine ⟨⟨h, rfl⟩, fun s hs => ?_⟩
    obtain ⟨hwellFormed, houtcome⟩ := ih (h.apply operator) s hs
    exact ⟨hwellFormed, houtcome.trans (t.outcome_apply operator)⟩

/-- All tables of a run are well formed and tell of the same call. -/
theorem WellFormed.steps (h : t.WellFormed) (operators : List Operator) :
    ∀ s ∈ t.steps operators, s.WellFormed ∧ s.outcome = t.outcome := by
  rw [Table.steps]
  split_ifs
  · exact h.scanl_apply operators
  · exact List.forall_mem_singleton.mpr ⟨h, rfl⟩

end Table

/-- Whatever text a call gives and whatever operators follow, the table that comes out and each
one on the way is well formed and says about the call what the table of the text says. -/
theorem Query.execute_invariant (q : Query) (json : String) (milliseconds : Int) :
    let start := Table.ofText json milliseconds
    (start.steps q.operators).getLast? = some (q.execute json milliseconds) ∧
      (∀ t ∈ start.steps q.operators, t.WellFormed ∧ t.outcome = start.outcome) ∧
      (q.execute json milliseconds).WellFormed ∧
      (q.execute json milliseconds).outcome = start.outcome := by
  intro start
  have hsteps := (Table.ofText_wellFormed json milliseconds).steps q.operators
  exact ⟨start.getLast?_steps q.operators, hsteps, hsteps _ (start.run_mem_steps q.operators)⟩

end PipeQuery
