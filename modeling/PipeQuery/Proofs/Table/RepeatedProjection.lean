import PipeQuery.Proofs.Table.Composition

/-! Projecting twice. Names are looked up anew in the columns that the first projection kept, and
those are in another order: a name that is no column's own finds the first column that differs from
it in case only, which need not be the one that it found before. The second projection changes
nothing exactly when each column that such names pass over is requested by its own name in time. The
third one never changes anything. -/

namespace PipeQuery.Table

variable {t : Table} {names : List String} {name : String} {i p : Nat}

/-! ### Projections that keep everything -/

theorem map_cellOf_range {row : List String} {n : Nat} (h : row.length = n) :
    (List.range n).map (cellOf row) = row := by
  refine List.ext_getElem (by simp [h]) fun p hp hp' => ?_
  simp [cellOf, hp']

/-- A projection changes nothing if it keeps all columns in their order. -/
theorem WellFormed.project_eq_self_iff (h : t.WellFormed) (names : List String) :
    t.project names = t ↔ t.projection names = List.range t.columns.length := by
  constructor
  · intro heq
    have hlen : (t.projection names).length = t.columns.length := by
      rw [← length_columns_project, heq]
    refine List.ext_getElem (hlen.trans List.length_range.symm) fun p hp _ => ?_
    have hcolumn := getElem?_columns_project (List.getElem?_eq_getElem hp)
    rw [heq] at hcolumn
    rw [List.getElem_range]
    exact ((List.getElem?_inj (hlen ▸ hp) h.columns_nodup).mp hcolumn).symm
  · intro heq
    have hrows :
        t.rows.map (fun row => (List.range t.columns.length).map (cellOf row)) = t.rows := by
      conv_rhs => rw [← List.map_id t.rows]
      exact List.map_congr_left fun row hrow => map_cellOf_range (h.row_length row hrow)
    rw [project, heq, map_cellOf_range rfl, hrows, reshape, ← h.rowCount_eq]

theorem eq_of_append_cons_eq {α : Type} {xs ys xs' ys' : List α} {a b : α}
    (h : xs ++ a :: ys = xs' ++ b :: ys') (ha : a ∉ xs') (hb : b ∉ xs) : a = b := by
  rcases List.append_eq_append_iff.mp h with ⟨zs, rfl, hzs⟩ | ⟨zs, rfl, hzs⟩
  · cases zs with
    | nil => exact (List.cons.inj hzs).1
    | cons z zs =>
      rw [(List.cons.inj hzs).1] at ha
      simp at ha
  · cases zs with
    | nil => exact (List.cons.inj hzs).1.symm
    | cons z zs =>
      rw [(List.cons.inj hzs).1] at hb
      simp at hb

/-- Some name finds the column, and no name before it finds one behind the column. -/
def FoundInTurn (t : Table) (names : List String) (p : Nat) : Prop :=
  ∃ xs name ys, names = xs ++ name :: ys ∧ t.columnIndex? name = some p ∧
    ∀ x ∈ xs, ∀ i, t.columnIndex? x = some i → i ≤ p

theorem FoundInTurn.mem_projection (h : t.FoundInTurn names p) : p ∈ t.projection names := by
  obtain ⟨xs, name, ys, rfl, hname, -⟩ := h
  exact Table.mem_projection.mpr ⟨name, by simp, hname⟩

/-- A column that is found in turn is kept in front of all columns behind it. -/
theorem FoundInTurn.lt_of_lt {q j : Nat} (h : t.FoundInTurn names i)
    (hi : (t.projection names)[p]? = some i) (hj : (t.projection names)[q]? = some j)
    (hqp : q < p) : j < i := by
  obtain ⟨xs, name, ys, rfl, hname, hxs⟩ := h
  obtain ⟨xs', name', ys', hsplit, hname', hxs'⟩ := exists_first_mention hj
  by_contra hle
  rw [Nat.not_lt] at hle
  have hne : i ≠ j := by
    rintro rfl
    exact Nat.ne_of_lt hqp (place_unique hj hi)
  have hnew' : name' ∉ xs := fun hmem => hne (Nat.le_antisymm hle (hxs name' hmem j hname'))
  have hnew : name ∉ xs' := by
    intro hmem
    have htake : i ∈ t.projection xs' := Table.mem_projection.mpr ⟨name, hmem, hname⟩
    rw [hxs', mem_take_iff_getElem?] at htake
    obtain ⟨r, hr, hri⟩ := htake
    have hrp := place_unique hri hi
    omega
  rw [← eq_of_append_cons_eq hsplit hnew hnew', hname] at hname'
  exact hne (Option.some.inj hname')

/-- Columns that are all found in turn are kept in their order. -/
theorem projection_eq_range (hfound : ∀ p < t.columns.length, t.FoundInTurn names p) :
    t.projection names = List.range t.columns.length := by
  have hperm : (t.projection names).Perm (List.range t.columns.length) := by
    rw [List.perm_ext_iff_of_nodup (t.nodup_projection names) List.nodup_range]
    intro i
    rw [List.mem_range]
    exact ⟨lt_of_mem_projection, fun hi => (hfound i hi).mem_projection⟩
  refine hperm.eq_of_pairwise (fun i j _ _ hij hji => absurd hij (Nat.lt_asymm hji)) ?_
    List.pairwise_lt_range
  refine List.pairwise_iff_getElem.mpr fun q p hq hp hqp => ?_
  exact (hfound _ (lt_of_mem_projection (List.getElem_mem hp))).lt_of_lt
    (List.getElem?_eq_getElem hp) (List.getElem?_eq_getElem hq) hqp

/-! ### Names that are looked up again -/

/-- A name finds in the projection the column that it finds in the table or one in front of it. -/
theorem exists_columnIndex?_project_le (hi : (t.projection names)[p]? = some i)
    (hname : t.columnIndex? name = some i) :
    ∃ q ≤ p, (t.project names).columnIndex? name = some q := by
  by_cases hmem : name ∈ (t.project names).columns
  · obtain ⟨q, j, hq, hj, hfound⟩ := exists_columnIndex?_project hmem
    cases hname.symm.trans hfound
    exact ⟨q, Nat.le_of_eq (place_unique hj hi), hq⟩
  · have hcolumn := List.getElem?_eq_getElem (columnIndex?_lt hname)
    have hx := (getElem?_columns_project hi).trans hcolumn
    have hlower := lowercase_of_columnIndex? hname hcolumn
    obtain ⟨q, hq⟩ := exists_columnIndex?_of_lowercase hx hlower
    refine ⟨q, columnIndex?_le hq (fun hown => hmem (List.mem_of_getElem? hown)) hx hlower, hq⟩

/-- Names that find the first `p` columns of a projection in the table find no others in it. -/
theorem columnIndex?_project_lt {xs : List String}
    (hxs : t.projection xs = (t.projection names).take p) (hname : name ∈ xs)
    (hi : (t.project names).columnIndex? name = some i) : i < p := by
  have hx := List.getElem?_eq_getElem (columnIndex?_lt hi)
  obtain ⟨k, hk, -⟩ := exists_kept hx
  obtain ⟨j, hj⟩ := exists_columnIndex?_of_lowercase ((getElem?_columns_project hk).symm.trans hx)
    (lowercase_of_columnIndex? hi hx)
  have htake : j ∈ (t.projection names).take p := hxs ▸ mem_projection.mpr ⟨name, hname, hj⟩
  obtain ⟨r, hr, hrj⟩ := mem_take_iff_getElem?.mp htake
  obtain ⟨q, hq, hfound⟩ := exists_columnIndex?_project_le hrj hj
  cases hi.symm.trans hfound
  omega

/-- Each column whose name differs in case only from one in front of it is requested by its own
name, and no name before that finds a column behind it. -/
def OwnNamesInTurn (t : Table) (names : List String) : Prop :=
  ∀ p q x y, q < p → t.columns[p]? = some x → t.columns[q]? = some y →
    Unicode.lowercase y = Unicode.lowercase x →
    ∃ before after, names = before ++ x :: after ∧
      ∀ n ∈ before, ∀ i, t.columnIndex? n = some i → i ≤ p

theorem OwnNamesInTurn.foundInTurn (h : (t.project names).OwnNamesInTurn names)
    (hp : p < (t.project names).columns.length) : (t.project names).FoundInTurn names p := by
  have hx := List.getElem?_eq_getElem hp
  set x := (t.project names).columns[p]
  by_cases hfront : ∃ q y, q < p ∧ (t.project names).columns[q]? = some y ∧
      Unicode.lowercase y = Unicode.lowercase x
  · obtain ⟨q, y, hqp, hy, hlower⟩ := hfront
    obtain ⟨before, after, hnames, hbefore⟩ := h p q x y hqp hx hy hlower
    exact ⟨before, x, after, hnames,
      columnIndex?_of_getElem? (t.nodup_columns_project names) hx, hbefore⟩
  · obtain ⟨i, hi, -⟩ := exists_kept hx
    obtain ⟨xs, name, ys, hnames, hname, hxs⟩ := exists_first_mention hi
    obtain ⟨q, hqp, hq⟩ := exists_columnIndex?_project_le hi hname
    have hy := List.getElem?_eq_getElem (columnIndex?_lt hq)
    have hlower := (lowercase_of_columnIndex? hq hy).trans
      (lowercase_of_columnIndex? hname ((getElem?_columns_project hi).symm.trans hx)).symm
    have hpq : q = p := by
      by_contra hne
      exact hfront ⟨q, _, by omega, hy, hlower⟩
    exact ⟨xs, name, ys, hnames, hpq ▸ hq,
      fun n hn k hk => Nat.le_of_lt (columnIndex?_project_lt hxs hn hk)⟩

theorem ownNamesInTurn_of_projection_eq (h : t.projection names = List.range t.columns.length) :
    t.OwnNamesInTurn names := by
  intro p q x y hqp hx hy hlower
  have hp := (List.getElem?_eq_some_iff.mp hx).1
  have hkept : (t.projection names)[p]? = some p := by rw [h, List.getElem?_range hp]
  obtain ⟨xs, name, ys, hnames, hname, hxs⟩ := exists_first_mention hkept
  have hown : name = x := eq_of_columnIndex?_of_lt hname hx hqp hy hlower
  refine ⟨xs, ys, hown ▸ hnames, fun n hn i hi => ?_⟩
  have htake : i ∈ (t.projection names).take p := hxs ▸ mem_projection.mpr ⟨n, hn, hi⟩
  rw [h, List.take_range, List.mem_range] at htake
  omega

theorem mem_of_prefix_of_le {α : Type} {xs ys : List α} {x y : α} {a b : Nat} (h : xs <+: ys)
    (hnodup : ys.Nodup) (ha : ys[a]? = some x) (hb : ys[b]? = some y) (hab : a ≤ b)
    (hy : y ∈ xs) : x ∈ xs := by
  obtain ⟨r, hr⟩ := List.getElem?_of_mem hy
  obtain ⟨hlt, rfl⟩ := List.getElem?_eq_some_iff.mp hr
  have hplace := List.prefix_iff_getElem?.mp h r hlt
  obtain ⟨hlt', -⟩ := List.getElem?_eq_some_iff.mp hplace
  have hrb := (List.getElem?_inj hlt' hnodup).mp (hplace.trans hb.symm)
  have hxs := List.prefix_iff_getElem?.mp h a (by omega)
  rw [← Option.some.inj (hxs.symm.trans ha)]
  exact List.getElem_mem _

/-- A column that is found in a projection through another spelling is found there by each name that
finds it in the table. -/
theorem columnIndex?_project_of_ne {other : String} (hi : (t.projection names)[p]? = some i)
    (hname : (t.project names).columnIndex? name = some p)
    (hne : (t.project names).columns[p]? ≠ some name) (hother : t.columnIndex? other = some i) :
    (t.project names).columnIndex? other = some p := by
  obtain ⟨q, hqp, hq⟩ := exists_columnIndex?_project_le hi hother
  have hx := List.getElem?_eq_getElem (columnIndex?_lt hname)
  have hy := List.getElem?_eq_getElem (columnIndex?_lt hq)
  have hlower := calc
    _ = Unicode.lowercase other := lowercase_of_columnIndex? hq hy
    _ = _ := (lowercase_of_columnIndex? hother ((getElem?_columns_project hi).symm.trans hx)).symm
    _ = Unicode.lowercase name := lowercase_of_columnIndex? hname hx
  rwa [Nat.le_antisymm hqp (columnIndex?_le hname hne hy hlower)] at hq

/-- In the second projection, a column that is found first through another spelling is kept in front
of all others of its spellings. -/
theorem lowercase_ne_of_first_mention {xs ys : List String} {y : String} {a b q : Nat}
    (hnames : names = xs ++ ys)
    (hxs : (t.project names).projection xs = ((t.project names).projection names).take p)
    (ha : ((t.project names).projection names)[p]? = some a)
    (hname : (t.project names).columnIndex? name = some a)
    (hne : (t.project names).columns[a]? ≠ some name) (hqp : q < p)
    (hb : ((t.project names).projection names)[q]? = some b)
    (hy : (t.project names).columns[b]? = some y) :
    Unicode.lowercase y ≠ Unicode.lowercase name := by
  intro hlower
  have hx := List.getElem?_eq_getElem (columnIndex?_lt hname)
  have hab : a < b := by
    refine Nat.lt_of_le_of_ne (columnIndex?_le hname hne hy hlower) ?_
    rintro rfl
    exact Nat.ne_of_lt hqp (place_unique hb ha)
  -- Column `b` stands behind `a`, so it was found by its own name, in the table too.
  obtain ⟨z, hz, hzb⟩ := mem_projection.mp (hxs ▸ mem_take_iff_getElem?.mpr ⟨q, hqp, hb⟩)
  have hzy : z = y := eq_of_columnIndex?_of_lt hzb hy hab hx
    ((lowercase_of_columnIndex? hname hx).trans hlower.symm)
  obtain ⟨j, hj, hyj⟩ := exists_kept hy
  have hjxs : j ∈ t.projection xs := mem_projection.mpr ⟨z, hz, hzy ▸ hyj⟩
  -- There `a` was found before `b`, by a name that finds it in the projection again.
  obtain ⟨k, hk, -⟩ := exists_kept hx
  have hkxs : k ∈ t.projection xs := mem_of_prefix_of_le (hnames ▸ t.projection_prefix_append xs ys)
    (t.nodup_projection names) hk hj (Nat.le_of_lt hab) hjxs
  obtain ⟨w, hw, hwk⟩ := mem_projection.mp hkxs
  have hwa := mem_projection.mpr ⟨w, hw, columnIndex?_project_of_ne hk hname hne hwk⟩
  rw [hxs, mem_take_iff_getElem?] at hwa
  obtain ⟨r, hr, hra⟩ := hwa
  exact Nat.ne_of_lt hr (place_unique hra ha)

theorem ownNamesInTurn_project_project (t : Table) (names : List String) :
    ((t.project names).project names).OwnNamesInTurn names := by
  intro p q x y hqp hx hy hlower
  obtain ⟨a, ha, hxa⟩ := exists_kept hx
  obtain ⟨b, hb, -⟩ := exists_kept hy
  obtain ⟨xs, name, ys, hnames, hname, hxs⟩ := exists_first_mention ha
  rw [getElem?_columns_project ha] at hx
  rw [getElem?_columns_project hb] at hy
  have hown : name = x := by
    by_contra hne
    exact lowercase_ne_of_first_mention hnames hxs ha hname
      (fun heq => hne (Option.some.inj (heq.symm.trans hx))) hqp hb hy
      (hlower.trans (lowercase_of_columnIndex? hname hx))
  exact ⟨xs, ys, hown ▸ hnames,
    fun n hn i hi => Nat.le_of_lt (columnIndex?_project_lt hxs hn hi)⟩

/-! ### Repeated projections -/

theorem project_project_eq_iff (t : Table) (names : List String) :
    (t.project names).project names = t.project names ↔ (t.project names).OwnNamesInTurn names := by
  rw [(t.project_wellFormed names).project_eq_self_iff]
  exact ⟨ownNamesInTurn_of_projection_eq, fun h => projection_eq_range fun p => h.foundInTurn⟩

theorem project_project_project (t : Table) (names : List String) :
    ((t.project names).project names).project names = (t.project names).project names :=
  ((t.project names).project_project_eq_iff names).mpr (t.ownNamesInTurn_project_project names)

/-- Projecting twice is projecting once if, among kept columns that differ in case only, each but
the first is requested by its own name in turn. Projecting three times is projecting twice, and a
failed table is never changed. -/
theorem run_project_twice (t : Table) (names : List String) :
    (t.run [.project names, .project names] = t.run [.project names] ↔
      (t.success = true → (t.project names).OwnNamesInTurn names)) ∧
    t.run [.project names, .project names, .project names] =
      t.run [.project names, .project names] ∧
    (t.success = false → ∀ operators, t.run operators = t) := by
  refine ⟨?_, ?_, run_of_failure⟩
  · cases hsuccess : t.success with
    | false => simp [run_of_failure hsuccess]
    | true =>
      rw [run_of_success hsuccess, run_of_success hsuccess]
      exact (t.project_project_eq_iff names).trans ⟨fun h _ => h, fun h => h rfl⟩
  · cases hsuccess : t.success with
    | false => rw [run_of_failure hsuccess, run_of_failure hsuccess]
    | true =>
      rw [run_of_success hsuccess, run_of_success hsuccess]
      exact t.project_project_project names

/-- In the first projection the name in small letters finds the column `Id`, which is the first one,
and in the second the column `ID`, which is now. -/
theorem run_project_twice_drops :
    let t : Table := .ofRows ["Id", "ID"] [["1", "2"]]
    t.WellFormed ∧
    t.run [.project ["ID", "id"]] = .ofRows ["ID", "Id"] [["2", "1"]] ∧
    t.run [.project ["ID", "id"], .project ["ID", "id"]] = .ofRows ["ID"] [["2"]] ∧
    t.run [.project ["ID", "id"], .project ["ID", "id"]] ≠ t.run [.project ["ID", "id"]] := by
  exact ⟨ofRows_wellFormed (by decide) (by decide), by decide +kernel, by decide +kernel,
    by decide +kernel⟩

end PipeQuery.Table
