import Mathlib.Data.List.Induction
import PipeQuery.Proofs.Named
import PipeQuery.Table.Pipeline

/-! Columns by name and projections. A name finds a column of exactly this name before any other,
and a column that is found by some name is found by its own. A projection keeps the columns that its
names find, in the order in which they are found first, so no two of them have one name. -/

namespace PipeQuery.Table

variable {t : Table} {name x y : String} {names : List String} {i j p : Nat}

/-! ### Columns by name -/

/-- The place `i` is the first one with an element of `s`. -/
def FirstAt {α : Type} (xs : List α) (i : Nat) (s : α → Prop) : Prop :=
  (∃ x, xs[i]? = some x ∧ s x) ∧ ∀ j < i, ∀ y, xs[j]? = some y → ¬s y

theorem findIdx?_eq_some_iff_firstAt {α : Type} {xs : List α} {s : α → Prop} [DecidablePred s] :
    xs.findIdx? (fun x => decide (s x)) = some i ↔ FirstAt xs i s := by
  rw [List.findIdx?_eq_some_iff_getElem]
  constructor
  · rintro ⟨hlt, hi, hfirst⟩
    refine ⟨⟨_, List.getElem?_eq_getElem hlt, of_decide_eq_true hi⟩, fun j hj y hy hs => ?_⟩
    obtain ⟨_, rfl⟩ := List.getElem?_eq_some_iff.mp hy
    exact hfirst j hj (decide_eq_true hs)
  · rintro ⟨⟨x, hx, hs⟩, hfirst⟩
    obtain ⟨hlt, rfl⟩ := List.getElem?_eq_some_iff.mp hx
    exact ⟨hlt, decide_eq_true hs, fun j hj hjs =>
      hfirst j hj _ (List.getElem?_eq_getElem (Nat.lt_trans hj hlt)) (of_decide_eq_true hjs)⟩

theorem findIdx?_eq_none_iff_notMem :
    t.columns.findIdx? (· = name) = none ↔ name ∉ t.columns := by
  rw [List.findIdx?_eq_none_iff]
  simp only [decide_eq_false_iff_not]
  exact ⟨fun h hmem => h name hmem rfl, fun h x hx => ne_of_mem_of_not_mem hx h⟩

/-- A name finds the first column of exactly this name and, where there is none, the first one whose
name differs in case only. -/
theorem columnIndex?_eq_some_iff : t.columnIndex? name = some i ↔
    FirstAt t.columns i (· = name) ∨
      name ∉ t.columns ∧ FirstAt t.columns i (Unicode.lowercase · = Unicode.lowercase name) := by
  rw [columnIndex?, ← findIdx?_eq_some_iff_firstAt, ← findIdx?_eq_some_iff_firstAt]
  split
  · next k hk =>
    have hmem : name ∈ t.columns := by
      obtain ⟨⟨_, hx, rfl⟩, -⟩ := findIdx?_eq_some_iff_firstAt.mp hk
      exact List.mem_of_getElem? hx
    simp [hk, hmem]
  · next hnone =>
    have hmem : name ∉ t.columns := findIdx?_eq_none_iff_notMem.mp hnone
    simp [hnone, hmem]

/-- The column that a name finds differs from it in case at most. -/
theorem lowercase_of_columnIndex? (h : t.columnIndex? name = some i)
    (hx : t.columns[i]? = some x) : Unicode.lowercase x = Unicode.lowercase name := by
  rcases columnIndex?_eq_some_iff.mp h with ⟨⟨y, hy, hname⟩, -⟩ | ⟨-, ⟨y, hy, hname⟩, -⟩
  · cases hx.symm.trans hy
    rw [hname]
  · cases hx.symm.trans hy
    exact hname

theorem columnIndex?_lt (h : t.columnIndex? name = some i) : i < t.columns.length := by
  rcases columnIndex?_eq_some_iff.mp h with ⟨⟨x, hx, -⟩, -⟩ | ⟨-, ⟨x, hx, -⟩, -⟩ <;>
    exact (List.getElem?_eq_some_iff.mp hx).1

/-- A name that is not the one of the column that it finds finds the first of all columns that
differ from it in case only. -/
theorem columnIndex?_le (h : t.columnIndex? name = some i) (hne : t.columns[i]? ≠ some name)
    (hy : t.columns[j]? = some y) (hlower : Unicode.lowercase y = Unicode.lowercase name) :
    i ≤ j := by
  rcases columnIndex?_eq_some_iff.mp h with ⟨⟨x, hx, rfl⟩, -⟩ | ⟨-, -, hfirst⟩
  · exact absurd hx hne
  · exact Nat.le_of_not_lt fun hlt => hfirst j hlt y hy hlower

/-- A column behind one that differs from it in case only is found by its own name alone. -/
theorem eq_of_columnIndex?_of_lt (h : t.columnIndex? name = some i) (hx : t.columns[i]? = some x)
    (hji : j < i) (hy : t.columns[j]? = some y)
    (hlower : Unicode.lowercase y = Unicode.lowercase x) : name = x := by
  by_contra hne
  have hle := columnIndex?_le h (fun heq => hne (Option.some.inj (heq.symm.trans hx))) hy
    (hlower.trans (lowercase_of_columnIndex? h hx))
  omega

/-- A column that is found by some name is found by its own. -/
theorem columnIndex?_own (h : t.columnIndex? name = some i) (hx : t.columns[i]? = some x) :
    t.columnIndex? x = some i := by
  refine columnIndex?_eq_some_iff.mpr (.inl ⟨⟨x, hx, rfl⟩, ?_⟩)
  rintro j hj _ hy rfl
  rcases columnIndex?_eq_some_iff.mp h with ⟨⟨y, hi, rfl⟩, hfirst⟩ | ⟨-, -, hfirst⟩
  · exact hfirst j hj _ hy (Option.some.inj (hx.symm.trans hi))
  · exact hfirst j hj _ hy (lowercase_of_columnIndex? h hx)

theorem exists_columnIndex?_of_mem (h : name ∈ t.columns) :
    ∃ i, t.columnIndex? name = some i ∧ t.columns[i]? = some name := by
  have hfind : (t.columns.findIdx? (· = name)).isSome := by simpa using h
  obtain ⟨i, hi⟩ := Option.isSome_iff_exists.mp hfind
  have hfirst := findIdx?_eq_some_iff_firstAt.mp hi
  obtain ⟨_, hx, rfl⟩ := hfirst.1
  exact ⟨i, columnIndex?_eq_some_iff.mpr (.inl hfirst), hx⟩

theorem columnIndex?_of_getElem? (h : t.columns.Nodup) (hx : t.columns[i]? = some x) :
    t.columnIndex? x = some i := by
  obtain ⟨j, hj, hjx⟩ := exists_columnIndex?_of_mem (List.mem_of_getElem? hx)
  rwa [(List.getElem?_inj (columnIndex?_lt hj) h).mp (hjx.trans hx.symm)] at hj

/-- A name finds some column if one differs from it in case at most. -/
theorem exists_columnIndex?_of_lowercase (hx : t.columns[j]? = some x)
    (hlower : Unicode.lowercase x = Unicode.lowercase name) :
    ∃ i, t.columnIndex? name = some i := by
  by_cases hmem : name ∈ t.columns
  · obtain ⟨i, hi, -⟩ := exists_columnIndex?_of_mem hmem
    exact ⟨i, hi⟩
  · have hfind : (t.columns.findIdx? (Unicode.lowercase · = Unicode.lowercase name)).isSome := by
      simpa using ⟨x, List.mem_of_getElem? hx, hlower⟩
    obtain ⟨i, hi⟩ := Option.isSome_iff_exists.mp hfind
    exact ⟨i, columnIndex?_eq_some_iff.mpr
      (.inr ⟨hmem, findIdx?_eq_some_iff_firstAt.mp hi⟩)⟩

/-! ### The places of a projection -/

theorem projection_concat (t : Table) (names : List String) (name : String) :
    t.projection (names ++ [name]) =
      match t.columnIndex? name with
      | some i => if i ∈ t.projection names then t.projection names else t.projection names ++ [i]
      | none => t.projection names := by
  rw [projection, List.foldl_append]
  rfl

/-- A projection keeps the columns that its names find. -/
theorem mem_projection : i ∈ t.projection names ↔ ∃ name ∈ names, t.columnIndex? name = some i := by
  induction names using List.reverseRecOn with
  | nil => simp [projection]
  | append_singleton names name ih =>
    simp only [projection_concat, List.mem_append, List.mem_singleton, or_and_right, exists_or,
      exists_eq_left, ← ih]
    cases t.columnIndex? name with
    | none => simp
    | some k =>
      dsimp only
      split_ifs with hk
      · simp only [Option.some.injEq, iff_self_or]
        rintro rfl
        exact hk
      · simp [eq_comm]

theorem lt_of_mem_projection (h : i ∈ t.projection names) : i < t.columns.length := by
  obtain ⟨name, -, hname⟩ := mem_projection.mp h
  exact columnIndex?_lt hname

/-- However names are written and repeated, a projection takes no column twice. -/
theorem nodup_projection (t : Table) (names : List String) : (t.projection names).Nodup := by
  induction names using List.reverseRecOn with
  | nil => exact List.nodup_nil
  | append_singleton names name ih =>
    rw [projection_concat]
    split
    · split_ifs with hmem
      · exact ih
      · exact nodup_append_new ih hmem
    · exact ih

theorem place_unique {q : Nat} (hp : (t.projection names)[p]? = some i)
    (hq : (t.projection names)[q]? = some i) : p = q :=
  (List.getElem?_inj (List.getElem?_eq_some_iff.mp hp).1 (t.nodup_projection names)).mp
    (hp.trans hq.symm)

theorem projection_prefix_append (t : Table) (xs ys : List String) :
    t.projection xs <+: t.projection (xs ++ ys) := by
  induction ys using List.reverseRecOn with
  | nil => simp
  | append_singleton ys y ih =>
    rw [← List.append_assoc, projection_concat]
    split
    · split_ifs
      · exact ih
      · exact ih.trans (List.prefix_append _ _)
    · exact ih

theorem mem_take_iff_getElem? {α : Type} {xs : List α} {a : α} :
    a ∈ xs.take p ↔ ∃ q < p, xs[q]? = some a := by
  simp only [List.mem_iff_getElem?, List.getElem?_take, Option.ite_none_right_eq_some]

/-- Each kept column is found first by some name, before which the names find the columns that are
kept in front of it. -/
theorem exists_first_mention (h : (t.projection names)[p]? = some i) :
    ∃ xs name ys, names = xs ++ name :: ys ∧ t.columnIndex? name = some i ∧
      t.projection xs = (t.projection names).take p := by
  obtain ⟨n, hn, hni⟩ := mem_projection.mp (List.mem_of_getElem? h)
  have hfind : (names.find? (t.columnIndex? · = some i)).isSome := by
    simpa using ⟨n, hn, hni⟩
  obtain ⟨name, hname⟩ := Option.isSome_iff_exists.mp hfind
  obtain ⟨hi, xs, ys, rfl, hxs⟩ := List.find?_eq_some_iff_append.mp hname
  have hi : t.columnIndex? name = some i := of_decide_eq_true hi
  have hnew : i ∉ t.projection xs := by
    rw [mem_projection]
    rintro ⟨z, hz, hzi⟩
    simpa [hzi] using hxs z hz
  -- The name adds its column behind those of the names before it, so this is its place `p`.
  have hstep := t.projection_prefix_append (xs ++ [name]) ys
  simp only [projection_concat, hi, if_neg hnew, List.append_assoc, List.singleton_append] at hstep
  have hplace : (t.projection (xs ++ name :: ys))[(t.projection xs).length]? = some i := by
    rw [List.prefix_iff_getElem?.mp hstep _ (by simp)]
    simp
  have hlen : (t.projection xs).length = p := place_unique hplace h
  exact ⟨xs, name, ys, rfl, hi, hlen ▸ List.prefix_iff_eq_take.mp (t.projection_prefix_append xs _)⟩

/-! ### The columns of a projection -/

theorem length_columns_project (t : Table) (names : List String) :
    (t.project names).columns.length = (t.projection names).length := List.length_map _

theorem getElem?_columns_project (h : (t.projection names)[p]? = some i) :
    (t.project names).columns[p]? = t.columns[i]? := by
  have hlt := lt_of_mem_projection (List.mem_of_getElem? h)
  simp [project, reshape, h, cellOf, hlt]

/-- The name of a kept column finds this column in the table. -/
theorem exists_kept (hx : (t.project names).columns[p]? = some x) :
    ∃ i, (t.projection names)[p]? = some i ∧ t.columnIndex? x = some i := by
  have hlt := (List.getElem?_eq_some_iff.mp hx).1
  rw [length_columns_project] at hlt
  have hi := List.getElem?_eq_getElem hlt
  obtain ⟨name, -, hname⟩ := mem_projection.mp (List.mem_of_getElem? hi)
  rw [getElem?_columns_project hi] at hx
  exact ⟨_, hi, columnIndex?_own hname hx⟩

/-- Two kept columns have different names, also where the table has names twice. -/
theorem nodup_columns_project (t : Table) (names : List String) :
    (t.project names).columns.Nodup := by
  refine List.nodup_iff_getElem?_ne_getElem?.mpr fun p q hpq hq heq => ?_
  have hx := List.getElem?_eq_getElem hq
  obtain ⟨i, hi, hxi⟩ := exists_kept hx
  obtain ⟨j, hj, hxj⟩ := exists_kept (heq.trans hx)
  cases hxi.symm.trans hxj
  exact Nat.ne_of_lt hpq (place_unique hj hi)

/-- The name of a kept column finds it before and after the projection. -/
theorem exists_columnIndex?_project (h : name ∈ (t.project names).columns) :
    ∃ p i, (t.project names).columnIndex? name = some p ∧ (t.projection names)[p]? = some i ∧
      t.columnIndex? name = some i := by
  obtain ⟨p, hp, hname⟩ := exists_columnIndex?_of_mem h
  obtain ⟨i, hi, hfound⟩ := exists_kept hname
  exact ⟨p, i, hp, hi, hfound⟩

end PipeQuery.Table
