import Mathlib.Data.List.NodupEquivFin
import Mathlib.Data.List.Perm.Basic
import PipeQuery.Proofs.Table.Invariant

/-! Where the rows of a result come from. Apart from counting, each operator gives every row of its
table a row of the table before, no two rows the same one, and keeps the cells under the columns that
it does not set; only sorting changes the order. Rows and cells are followed by place and columns by
name, so this composes along a pipeline. -/

namespace PipeQuery

/-! ### Places in lists -/

section Places

variable {α : Type} {xs ys : List α}

theorem exists_places_of_perm (h : ys.Perm xs) :
    ∃ places : List (Fin xs.length), ys = places.map xs.get ∧ places.Nodup := by
  have hget : (List.finRange xs.length).map xs.get = xs := by simp
  have hcomp : Relation.Comp (· = List.map xs.get ·) List.Perm ys (List.finRange xs.length) := by
    rw [List.eq_map_comp_perm]
    show ys.Perm ((List.finRange xs.length).map xs.get)
    rwa [hget]
  obtain ⟨places, hys, hplaces⟩ := hcomp
  exact ⟨places, hys, hplaces.nodup_iff.mpr (List.nodup_finRange _)⟩

/-- The elements of a rearranged list come from places of their own. -/
theorem exists_origin_of_perm (h : ys.Perm xs) :
    ∃ origin : Fin ys.length → Fin xs.length, Function.Injective origin ∧
      ∀ r, ys.get r = xs.get (origin r) := by
  obtain ⟨places, rfl, hnodup⟩ := exists_places_of_perm h
  have hlen : (places.map xs.get).length = places.length := List.length_map _
  refine ⟨fun r => places.get (r.cast hlen), ?_, fun r => by simp⟩
  exact (List.nodup_iff_injective_get.mp hnodup).comp (Fin.cast_injective hlen)

end Places

/-! ### What an operator does to rows and columns -/

/-- The operator sets the column. -/
def Operator.Writes (op : Operator) (column : String) : Prop :=
  ∃ expression, op = .extend column expression

/-- The operator may change the order of rows. -/
def Operator.Reorders (op : Operator) : Prop := ∃ column ascending, op = .sort column ascending

namespace Table

/-- Each row of `s` comes from a row of `t` of its own, and has the cells of that row under each
column that was not written; if nothing was reordered, the rows kept their order. -/
structure Traces (t s : Table) (written : String → Prop) (reordered : Prop)
    (origin : Fin s.rows.length → Fin t.rows.length) : Prop where
  injective : Function.Injective origin
  cells : ∀ (j : Nat) (name : String), s.columns[j]? = some name → ¬written name →
    ∃ i : Nat, t.columns[i]? = some name ∧ ∀ r, (s.rows.get r)[j]? = (t.rows.get (origin r))[i]?
  strictMono : ¬reordered → StrictMono origin

variable {t s u : Table} {written : String → Prop} {reordered : Prop}

theorem Traces.refl (t : Table) (written : String → Prop) (reordered : Prop) :
    Traces t t written reordered id :=
  ⟨Function.injective_id, fun j _ hj _ => ⟨j, hj, fun _ => rfl⟩, fun _ => strictMono_id⟩

theorem Traces.comp {written' : String → Prop} {reordered' : Prop}
    {f : Fin s.rows.length → Fin t.rows.length} {g : Fin u.rows.length → Fin s.rows.length}
    (hf : Traces t s written reordered f) (hg : Traces s u written' reordered' g) :
    Traces t u (fun name => written name ∨ written' name) (reordered ∨ reordered') (f ∘ g) := by
  refine ⟨hf.injective.comp hg.injective, fun j name hj hname => ?_, fun h => ?_⟩
  · rw [not_or] at hname
    obtain ⟨k, hk, hcells⟩ := hg.cells j name hj hname.2
    obtain ⟨i, hi, hcells'⟩ := hf.cells k name hk hname.1
    exact ⟨i, hi, fun r => (hcells r).trans (hcells' (g r))⟩
  · rw [not_or] at h
    exact (hf.strictMono h.1).comp (hg.strictMono h.2)

theorem Traces.mono {written' : String → Prop} {reordered' : Prop}
    {f : Fin s.rows.length → Fin t.rows.length} (h : Traces t s written reordered f)
    (hwritten : ∀ name, written name → written' name) (hreordered : reordered → reordered') :
    Traces t s written' reordered' f :=
  ⟨h.injective, fun j name hj hname => h.cells j name hj (mt (hwritten name) hname),
    fun hr => h.strictMono (mt hreordered hr)⟩

theorem exists_traces_of_sublist (hcolumns : s.columns = t.columns)
    (hrows : s.rows.Sublist t.rows) : ∃ origin, Traces t s written reordered origin := by
  obtain ⟨f, hf⟩ := List.sublist_iff_exists_fin_orderEmbedding_get_eq.mp hrows
  exact ⟨f, f.injective, fun j _ hj _ => ⟨j, hcolumns ▸ hj, fun r => by rw [hf r]⟩,
    fun _ => f.strictMono⟩

theorem exists_traces_of_perm (hcolumns : s.columns = t.columns) (hrows : s.rows.Perm t.rows)
    (hreordered : reordered) : ∃ origin, Traces t s written reordered origin := by
  obtain ⟨f, hinjective, hf⟩ := exists_origin_of_perm hrows
  exact ⟨f, hinjective, fun j _ hj _ => ⟨j, hcolumns ▸ hj, fun r => by rw [hf r]⟩,
    fun h => absurd hreordered h⟩

/-- Rows that are changed one by one keep their places. -/
theorem exists_traces_of_map {f : List String → List String} (hrows : s.rows = t.rows.map f)
    (hcells : ∀ (j : Nat) (name : String), s.columns[j]? = some name → ¬written name →
      ∃ i : Nat, t.columns[i]? = some name ∧ ∀ row ∈ t.rows, (f row)[j]? = row[i]?) :
    ∃ origin, Traces t s written reordered origin := by
  have hlen : s.rows.length = t.rows.length := by rw [hrows, List.length_map]
  have hget (r : Fin s.rows.length) : s.rows.get r = f (t.rows.get (r.cast hlen)) := by
    simp [List.getElem_of_eq hrows]
  refine ⟨Fin.cast hlen, Fin.cast_injective hlen, fun j name hj hname => ?_,
    fun _ => Fin.cast_strictMono hlen⟩
  obtain ⟨i, hi, hrow⟩ := hcells j name hj hname
  exact ⟨i, hi, fun r => by rw [hget r, hrow _ (List.get_mem _ _)]⟩

/-! ### Operators -/

theorem sort_columns (t : Table) (column : String) (ascending : Bool) :
    (t.sort column ascending).columns = t.columns := by
  rw [sort]
  split <;> rfl

theorem sort_rows_perm (t : Table) (column : String) (ascending : Bool) :
    (t.sort column ascending).rows.Perm t.rows := by
  rw [sort]
  split
  · exact .refl _
  · exact sortRows_perm _ _ _

theorem cellOf_eq_some {row : List String} {i : Nat} (h : i < row.length) :
    row[i]? = some (cellOf row i) := by
  simp [cellOf, h]

/-- A projected column shows the cells of the column of its name. -/
theorem WellFormed.project_traces (h : t.WellFormed) (names : List String) :
    ∃ origin, Traces t (t.project names) written reordered origin := by
  refine exists_traces_of_map rfl fun j name hj _ => ?_
  simp only [Table.project, reshape, List.getElem?_map, Option.map_eq_some_iff] at hj
  obtain ⟨i, hi, rfl⟩ := hj
  have hlt : i < t.columns.length := lt_of_mem_projection (List.mem_of_getElem? hi)
  refine ⟨i, cellOf_eq_some hlt, fun row hrow => ?_⟩
  have hrow : i < row.length := by rwa [h.row_length row hrow]
  rw [List.getElem?_map, hi, Option.map_some, cellOf_eq_some hrow]

theorem WellFormed.extend_traces (h : t.WellFormed) (column expression : String) :
    ∃ origin, Traces t (t.extend column expression) (· = column) reordered origin := by
  rw [Table.extend]
  split
  · next k hk =>
    refine exists_traces_of_map rfl fun j name hj hname => ⟨j, hj, fun row _ => ?_⟩
    have hne : k ≠ j := by
      rintro rfl
      obtain ⟨hlt, hcolumn, -⟩ := List.findIdx?_eq_some_iff_getElem.mp hk
      simp only [reshape, List.getElem?_eq_getElem hlt, Option.some.injEq] at hj
      exact hname (hj.symm.trans (of_decide_eq_true hcolumn))
    exact List.getElem?_set_ne hne
  · refine exists_traces_of_map rfl fun j name hj hname => ?_
    have hlt : j < t.columns.length := by
      by_contra hge
      rw [reshape, List.getElem?_append_right (Nat.le_of_not_lt hge),
        List.getElem?_singleton] at hj
      split_ifs at hj
      exact hname (Option.some.inj hj).symm
    rw [reshape, List.getElem?_append_left hlt] at hj
    refine ⟨j, hj, fun row hrow => List.getElem?_append_left ?_⟩
    rwa [h.row_length row hrow]

/-- Apart from counting, an operator gives each of its rows a row of the table before, and changes
only the column that it writes. -/
theorem WellFormed.apply_traces (h : t.WellFormed) {op : Operator} (hop : op ≠ .count) :
    ∃ origin, Traces t (t.apply op) op.Writes op.Reorders origin := by
  cases op with
  | filter conditions => exact exists_traces_of_sublist rfl List.filter_sublist
  | project names => exact h.project_traces names
  | take n => exact exists_traces_of_sublist rfl (List.take_sublist n t.rows)
  | sort column ascending =>
    exact exists_traces_of_perm (t.sort_columns column ascending) (t.sort_rows_perm column ascending)
      ⟨column, ascending, rfl⟩
  | count => exact absurd rfl hop
  | extend column expression =>
    obtain ⟨origin, horigin⟩ := h.extend_traces column expression
    refine ⟨origin, horigin.mono ?_ id⟩
    rintro _ rfl
    exact ⟨expression, rfl⟩

/-! ### Runs -/

theorem WellFormed.foldl_traces (h : t.WellFormed) {operators : List Operator}
    (hcount : .count ∉ operators) :
    ∃ origin, Traces t (operators.foldl Table.apply t) (fun name => ∃ op ∈ operators, op.Writes name)
      (∃ op ∈ operators, op.Reorders) origin := by
  induction operators generalizing t with
  | nil => exact ⟨id, Traces.refl t _ _⟩
  | cons op operators ih =>
    rw [List.mem_cons, not_or] at hcount
    obtain ⟨first, hfirst⟩ := h.apply_traces (Ne.symm hcount.1)
    obtain ⟨rest, hrest⟩ := ih (h.apply op) hcount.2
    refine ⟨first ∘ rest, (hfirst.comp hrest).mono (fun name => ?_) ?_⟩
    · rw [List.exists_mem_cons_iff]
      exact id
    · rw [List.exists_mem_cons_iff]
      exact id

theorem WellFormed.run_traces (h : t.WellFormed) {operators : List Operator}
    (hcount : .count ∉ operators) :
    ∃ origin, Traces t (t.run operators) (fun name => ∃ op ∈ operators, op.Writes name)
      (∃ op ∈ operators, op.Reorders) origin := by
  by_cases hsuccess : t.success
  · rw [run, if_pos hsuccess]
    exact h.foldl_traces hcount
  · rw [run, if_neg hsuccess]
    exact ⟨id, Traces.refl t _ _⟩

theorem cell?_eq (t : Table) (r : Fin t.rows.length) (j : Nat) :
    t.cell? r j = (t.rows.get r)[j]? := by
  simp [cell?]

theorem WellFormed.exists_cell (h : t.WellFormed) {j : Nat} (hj : j < t.columns.length)
    (r : Fin t.rows.length) : ∃ cell, t.cell? r j = some cell := by
  rw [← h.row_length _ (List.get_mem t.rows r)] at hj
  exact ⟨_, (t.cell?_eq r j).trans (List.getElem?_eq_getElem hj)⟩

end Table

/-- Without counting, each row of the result comes from a row of its own of the table that the
text stands for. Under each column that no extension sets it shows that row's cells in the column
of the same name, and without sorting the rows keep their order. -/
theorem Query.execute_provenance (q : Query) (json : String) (milliseconds : Int)
    (hcount : .count ∉ q.operators) :
    let start := Table.ofText json milliseconds
    let result := q.execute json milliseconds
    ∃ origin : Fin result.rows.length → Fin start.rows.length,
      Function.Injective origin ∧
      (∀ (j : Nat) (name : String), result.columns[j]? = some name →
        (∀ expression, .extend name expression ∉ q.operators) →
        ∃ i, start.columns[i]? = some name ∧
          ∀ r : Fin result.rows.length, ∃ cell,
            result.cell? r j = some cell ∧ start.cell? (origin r) i = some cell) ∧
      ((∀ column ascending, .sort column ascending ∉ q.operators) → StrictMono origin) := by
  intro start result
  have hstart : start.WellFormed := Table.ofText_wellFormed json milliseconds
  have hresult : result.WellFormed :=
    (hstart.steps q.operators _ (start.run_mem_steps q.operators)).1
  obtain ⟨origin, horigin⟩ := hstart.run_traces hcount
  refine ⟨origin, horigin.injective, fun j name hj hname => ?_, fun hsort => ?_⟩
  · have hkept : ¬∃ op ∈ q.operators, op.Writes name := by
      rintro ⟨_, hop, expression, rfl⟩
      exact hname expression hop
    obtain ⟨i, hi, hcells⟩ := horigin.cells j name hj hkept
    refine ⟨i, hi, fun r => ?_⟩
    obtain ⟨cell, hcell⟩ := hresult.exists_cell (List.getElem?_eq_some_iff.mp hj).1 r
    refine ⟨cell, hcell, ?_⟩
    rw [start.cell?_eq, ← hcells r]
    exact (result.cell?_eq r j).symm.trans hcell
  · apply horigin.strictMono
    rintro ⟨_, hop, column, ascending, rfl⟩
    exact hsort column ascending hop

/-- Three people, two of them of one age. -/
def people : String :=
  "[\x7b\"name\":\"Ann\",\"age\":9\x7d,\x7b\"name\":\"Bob\",\"age\":31\x7d," ++
    "\x7b\"name\":\"Cid\",\"age\":31\x7d]"

/-- Takes the columns in another order and renames none, whatever the case of the names. -/
def eldest : Query where
  provider := "staff"
  tool := "list"
  parameters := []
  operators :=
    [.extend "label" "NAME", .sort "age" false, .project ["Age", "name", "label"],
      .filter [⟨"age", .greater, "10"⟩], .extend "age" "old", .take 3]

theorem Query.execute_provenance_eldest :
    let start := Table.ofText people 5
    let result := eldest.execute people 5
    start.success = true ∧ .count ∉ eldest.operators ∧
    result.columns = ["age", "name", "label"] ∧
    result.rows = [["old", "Bob", "Bob"], ["old", "Cid", "Cid"]] ∧
    ∃ origin : Fin result.rows.length → Fin start.rows.length,
      Function.Injective origin ∧
      (∀ (j : Nat) (name : String), result.columns[j]? = some name →
        (∀ expression, .extend name expression ∉ eldest.operators) →
        ∃ i, start.columns[i]? = some name ∧
          ∀ r : Fin result.rows.length, ∃ cell,
            result.cell? r j = some cell ∧ start.cell? (origin r) i = some cell) ∧
      ((∀ column ascending, .sort column ascending ∉ eldest.operators) → StrictMono origin) := by
  have hcount : .count ∉ eldest.operators := by decide
  exact ⟨by decide +kernel, hcount, by decide +kernel, by decide +kernel,
    execute_provenance eldest people 5 hcount⟩

end PipeQuery
