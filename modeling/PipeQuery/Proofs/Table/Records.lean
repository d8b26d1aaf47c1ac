import PipeQuery.Proofs.Named
import PipeQuery.Proofs.Table.Appending

/-! Lists of records as tables. Columns are collected in one pass over the names of all objects and
rows are filled in another one by looking names up, and the two agree: whatever names an object has
and in whatever order, each of its values stands in its row under its name and nothing else stands
anywhere. There is only one such table. -/

namespace PipeQuery

namespace Json

/-- The name stands for `x` in the item, which is an object: its first member of this name is `x`. -/
def Has (item : Json) (name : String) (x : Json) : Prop :=
  ∃ before after : Named Json, item = .object (before ++ (name, x) :: after) ∧ name ∉ before.names

/-- The first item is an object. -/
def StartWithObject (items : List Json) : Prop := ∃ members rest, items = .object members :: rest

/-- The value is a list that starts with an object, or an object of which the first member with such
a list has this one. -/
inductive HoldsRecords (items : List Json) : Json → Prop
  | list (h : StartWithObject items) : HoldsRecords items (.array items)
  | member {before after : Named Json} {name : String} (h : StartWithObject items)
      (hfirst : ∀ p ∈ before, ∀ others, p.2 = .array others → ¬StartWithObject others) :
      HoldsRecords items (.object (before ++ (name, .array items) :: after))

/-- The names of all objects among the items, object by object and member by member. -/
def namesOf (items : List Json) : List String := items.flatMap fun x => (Table.membersOf x).map (·.1)

end Json

open Json

namespace Table

/-- The table has a row for each item, in order, and a column for each name of an object among them,
in the order in which the names first come. Under each name stands what it stands for in the item,
and nothing where the item does not have the name. -/
structure Tabulates (items : List Json) (t : Table) : Prop where
  outcome_eq : t.outcome = ⟨0, true, none⟩
  rowCount_eq : t.rowCount = items.length
  rows_length : t.rows.length = items.length
  row_length : ∀ row ∈ t.rows, row.length = t.columns.length
  columns_firstCome : FirstCome (namesOf items) t.columns
  cell_of_has : ∀ (i j : Nat) (item x : Json) (name : String), items[i]? = some item →
    t.columns[j]? = some name → item.Has name x → t.cell? i j = some (cellText x)
  cell_of_not_has : ∀ (i j : Nat) (item : Json) (name : String), items[i]? = some item →
    t.columns[j]? = some name → (∀ x, ¬item.Has name x) → t.cell? i j = some ""

variable {items : List Json} {item x : Json} {name : String} {names columns : List String}
  {s t : Table} {i j : Nat}

/-! ### Columns -/

theorem addNames_firstCome (h : FirstCome names columns) (more : List String) :
    FirstCome (names ++ more) (addNames columns more) := by
  induction more generalizing names columns with
  | nil => rwa [List.append_nil]
  | cons name more ih =>
    rw [← List.singleton_append, ← List.append_assoc]
    exact ih (h.concat name)

theorem foldl_addNames_firstCome (h : FirstCome names columns) (items : List Json) :
    FirstCome (names ++ namesOf items)
      (items.foldl (fun columns x => addNames columns ((membersOf x).map (·.1))) columns) := by
  induction items generalizing names columns with
  | nil => rwa [namesOf, List.flatMap_nil, List.append_nil]
  | cons x items ih =>
    rw [namesOf, List.flatMap_cons, ← List.append_assoc]
    exact ih (addNames_firstCome h _)

theorem columnsOf_firstCome (items : List Json) : FirstCome (namesOf items) (columnsOf items) :=
  foldl_addNames_firstCome .nil items

/-! ### Cells -/

theorem lookup_membersOf : (membersOf item).lookup name = some x ↔ item.Has name x := by
  cases item with
  | object members =>
    simpa [membersOf, Has, Named.get?] using @Named.get?_eq_some_iff Json members name x
  | _ => simp [membersOf, Has]

theorem lookup_membersOf_eq_none :
    (membersOf item).lookup name = none ↔ ∀ x, ¬item.Has name x := by
  simp only [← lookup_membersOf, Option.eq_none_iff_forall_ne_some]

theorem cell?_recordRow (hitem : items[i]? = some item) (hname : columns[j]? = some name) :
    (ofRows columns (items.map (recordRow columns))).cell? i j =
      some (((membersOf item).lookup name).elim "" cellText) := by
  have hrow : (ofRows columns (items.map (recordRow columns))).rows[i]? =
      some (recordRow columns item) := by
    rw [ofRows, List.getElem?_map, hitem, Option.map_some]
  rw [cell?_of_getElem? hrow, recordRow, List.getElem?_map, hname, Option.map_some]

theorem ofRows_tabulates (items : List Json) :
    (ofRows (columnsOf items) (items.map (recordRow (columnsOf items)))).Tabulates items where
  outcome_eq := rfl
  rowCount_eq := List.length_map _
  rows_length := List.length_map _
  row_length := by
    show ∀ row ∈ items.map _, _
    rw [List.forall_mem_map]
    exact fun x _ => List.length_map _
  columns_firstCome := columnsOf_firstCome items
  cell_of_has i j item x name hitem hname hhas := by
    have hcolumn : (columnsOf items)[j]? = some name := hname
    rw [cell?_recordRow hitem hcolumn, lookup_membersOf.mpr hhas, Option.elim_some]
  cell_of_not_has i j item name hitem hname hnone := by
    have hcolumn : (columnsOf items)[j]? = some name := hname
    rw [cell?_recordRow hitem hcolumn, lookup_membersOf_eq_none.mpr hnone, Option.elim_none]

/-! ### Only one table -/

theorem Tabulates.cell?_eq (hs : s.Tabulates items) (ht : t.Tabulates items)
    (hcolumns : s.columns = t.columns) (hi : i < items.length) (hj : j < t.columns.length) :
    s.cell? i j = t.cell? i j := by
  have hitem := List.getElem?_eq_getElem hi
  have hname := List.getElem?_eq_getElem hj
  have hname' : s.columns[j]? = some t.columns[j] := by rw [hcolumns, hname]
  by_cases hhas : ∃ x, items[i].Has t.columns[j] x
  · obtain ⟨x, hx⟩ := hhas
    rw [hs.cell_of_has i j _ x _ hitem hname' hx, ht.cell_of_has i j _ x _ hitem hname hx]
  · rw [not_exists] at hhas
    rw [hs.cell_of_not_has i j _ _ hitem hname' hhas, ht.cell_of_not_has i j _ _ hitem hname hhas]

theorem Tabulates.eq (hs : s.Tabulates items) (ht : t.Tabulates items) : s = t := by
  have hcolumns := hs.columns_firstCome.eq ht.columns_firstCome
  have hrows : s.rows = t.rows := by
    refine List.ext_getElem (hs.rows_length.trans ht.rows_length.symm) fun i hi hi' => ?_
    have hslen := hs.row_length _ (List.getElem_mem hi)
    have htlen := ht.row_length _ (List.getElem_mem hi')
    refine List.ext_getElem (by rw [hslen, htlen, hcolumns]) fun j hj hj' => ?_
    have hcell := hs.cell?_eq ht hcolumns (hs.rows_length ▸ hi) (htlen ▸ hj')
    rw [cell?_of_getElem? (List.getElem?_eq_getElem hi),
      cell?_of_getElem? (List.getElem?_eq_getElem hi'), List.getElem?_eq_getElem hj,
      List.getElem?_eq_getElem hj'] at hcell
    exact Option.some.inj hcell
  have houtcome := hs.outcome_eq.trans ht.outcome_eq.symm
  have hcount := hs.rowCount_eq.trans ht.rowCount_eq.symm
  cases s
  cases t
  simp only [outcome, Outcome.mk.injEq] at houtcome
  rw [Table.mk.injEq]
  exact ⟨hcolumns, hrows, hcount, houtcome⟩

/-! ### Finding the records -/

theorem areRecords_iff : areRecords items = true ↔ StartWithObject items := by
  rcases items with _ | ⟨item, items⟩
  · simp [areRecords, StartWithObject]
  · cases item <;> simp [areRecords, StartWithObject]

theorem ofItems_of_startWithObject (h : StartWithObject items) :
    ofItems items = ofRows (columnsOf items) (items.map (recordRow (columnsOf items))) := by
  obtain ⟨members, rest, rfl⟩ := h
  rfl

theorem wrapped?_append {before after : Named Json} (h : StartWithObject items)
    (hfirst : ∀ p ∈ before, ∀ others, p.2 = .array others → ¬StartWithObject others) :
    wrapped? (before ++ (name, .array items) :: after) = some items := by
  induction before with
  | nil => rw [List.nil_append, wrapped?, if_pos (areRecords_iff.mpr h)]
  | cons p before ih =>
    rw [List.forall_mem_cons] at hfirst
    obtain ⟨k, x⟩ := p
    cases x with
    | array others =>
      have hothers : ¬areRecords others = true := mt areRecords_iff.mp (hfirst.1 others rfl)
      rw [List.cons_append, wrapped?, if_neg hothers, ih hfirst.2]
    | _ => exact ih hfirst.2

/-- The table of a list of records, or of an object that holds one, is the one that has a row for
each item and each value in its row under its name. -/
theorem eq_ofJson_iff_tabulates (h : x.HoldsRecords items) (t : Table) :
    t = ofJson x ↔ t.Tabulates items := by
  have hofJson : (ofJson x).Tabulates items := by
    cases h with
    | list h =>
      rw [ofJson, ofItems_of_startWithObject h]
      exact ofRows_tabulates items
    | member h hfirst =>
      rw [ofJson, wrapped?_append h hfirst]
      show (ofItems items).Tabulates items
      rw [ofItems_of_startWithObject h]
      exact ofRows_tabulates items
  exact ⟨fun heq => heq ▸ hofJson, fun ht => ht.eq hofJson⟩

/-- Two objects that share a name, and between them a text. -/
def mixedItems : List Json :=
  [.object [("a", .number (.integer 1)), ("b", .null)], .string "loose",
   .object [("c", .array []), ("a", .bool true)]]

/-- The items behind a list of texts and in front of another list of objects. -/
def wrappedItems : Json :=
  .object ([("total", .number (.integer 3)), ("tags", .array [.string "x"])] ++
    ("rows", .array mixedItems) :: [("more", .array [.object []])])

theorem eq_ofJson_iff_tabulates_mixed :
    wrappedItems.HoldsRecords mixedItems ∧
    (ofRows ["a", "b", "c"] [["1", "", ""], ["", "", ""], ["true", "", "[]"]]).Tabulates
      mixedItems := by
  have hrecords : wrappedItems.HoldsRecords mixedItems :=
    .member ⟨_, _, rfl⟩ (by simp [StartWithObject])
  exact ⟨hrecords, (eq_ofJson_iff_tabulates hrecords _).mp (by decide +kernel)⟩

end Table

end PipeQuery
