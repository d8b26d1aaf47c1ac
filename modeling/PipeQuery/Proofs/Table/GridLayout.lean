import Mathlib.Data.Nat.Basic
import Mathlib.Order.Basic
import Mathlib.Tactic.Common
import PipeQuery.Proofs.Arithmetic.Digits
import PipeQuery.Table.Grid

/-! The layout of text grids. Header, rule and rows are lines of one length in which every column
has one range of places, and the range shows the cell of the column, cut to the width and filled up
with spaces. A grid is missing only if a column is too wide to be filled up. -/

namespace PipeQuery.Table

/-! ### Columns of a line -/

/-- The place at which a column starts: three characters stand behind each column before it. -/
def columnStart (widths : List Nat) (j : Nat) : Nat :=
  (widths.take j).foldr (fun w n => w + 3 + n) 0

/-- The characters of a line from a place on. -/
def range (line : List Char) (start length : Nat) : List Char := (line.drop start).take length

/-- The line shows something in the range of each column, the separator between neighbouring ones,
and nothing else. -/
structure Columned (widths : List Nat) (separator : List Char) (shows : Nat → List Char → Prop)
    (line : List Char) : Prop where
  length_eq : line.length + 3 = columnStart widths widths.length
  shows : ∀ j w, widths[j]? = some w → shows j (range line (columnStart widths j) w)
  separated : ∀ j w, widths[j]? = some w → j + 1 < widths.length →
    range line (columnStart widths j + w) 3 = separator

variable {widths : List Nat} {separator : List Char} {shows : Nat → List Char → Prop}
  {pieces : List (List Char)} {j w : Nat}

@[simp] theorem columnStart_zero (widths : List Nat) : columnStart widths 0 = 0 := rfl

@[simp] theorem columnStart_cons (w : Nat) (widths : List Nat) (j : Nat) :
    columnStart (w :: widths) (j + 1) = w + 3 + columnStart widths j := rfl

theorem range_append_left (cs ds : List Char) : range (cs ++ ds) 0 cs.length = cs := by
  simp [range]

theorem range_append_right (cs ds : List Char) (start length : Nat) :
    range (cs ++ ds) (cs.length + start) length = range ds start length := by
  rw [range, range, List.drop_append, List.drop_eq_nil_of_le (Nat.le_add_right _ _),
    List.nil_append, Nat.add_sub_cancel_left]

theorem Columned.single {piece : List Char} (h : shows 0 piece) :
    Columned [piece.length] separator shows piece where
  length_eq := rfl
  shows j w hw := by
    cases j with
    | zero =>
      obtain rfl : piece.length = w := by simpa using hw
      simpa [range] using h
    | succ j => simp at hw
  separated j w hw hj := by simp at hj

/-- One more column in front of a line. -/
theorem Columned.cons {piece line : List Char} (hseparator : separator.length = 3)
    (h : Columned widths separator (fun j => shows (j + 1)) line) (hpiece : shows 0 piece) :
    Columned (piece.length :: widths) separator shows (piece ++ (separator ++ line)) where
  length_eq := by
    have hline := h.length_eq
    rw [List.length_cons, columnStart_cons, List.length_append, List.length_append]
    omega
  shows j w hw := by
    cases j with
    | zero =>
      obtain rfl : piece.length = w := by simpa using hw
      rwa [columnStart_zero, range_append_left]
    | succ j =>
      rw [columnStart_cons, Nat.add_assoc, range_append_right, ← hseparator, range_append_right]
      exact h.shows j w (by simpa using hw)
  separated j w hw hj := by
    cases j with
    | zero =>
      obtain rfl : piece.length = w := by simpa using hw
      rw [columnStart_zero, Nat.zero_add, ← Nat.add_zero piece.length, range_append_right,
        ← hseparator, range_append_left]
    | succ j =>
      rw [columnStart_cons, Nat.add_assoc, Nat.add_assoc, range_append_right, ← hseparator,
        range_append_right, hseparator]
      exact h.separated j w (by simpa using hw) (by simpa using hj)

/-- Pieces with separators between them are columns that are as wide as the pieces. -/
theorem columned_intercalate (hseparator : separator.length = 3) (hne : pieces ≠ [])
    (hshows : ∀ j piece, pieces[j]? = some piece → shows j piece) :
    Columned (pieces.map List.length) separator shows (separator.intercalate pieces) := by
  -- The ranges of the other columns are those in the shorter line, moved behind the first piece.
  induction pieces generalizing shows with
  | nil => exact absurd rfl hne
  | cons piece pieces ih =>
    have hpiece : shows 0 piece := hshows 0 piece rfl
    cases pieces with
    | nil =>
      rw [List.intercalate_singleton]
      exact .single hpiece
    | cons next pieces =>
      have hrest := @ih (fun j => shows (j + 1)) (by simp) fun j => hshows (j + 1)
      rw [List.intercalate_cons_cons, List.append_assoc]
      exact hrest.cons hseparator hpiece

theorem mem_intercalate {c : Char} (h : c ∈ separator.intercalate pieces) :
    c ∈ separator ∨ ∃ piece ∈ pieces, c ∈ piece := by
  induction pieces with
  | nil => simp at h
  | cons piece pieces ih =>
    cases pieces with
    | nil => exact .inr ⟨piece, by simp, by simpa using h⟩
    | cons next pieces =>
      rw [List.intercalate_cons_cons, List.mem_append, List.mem_append] at h
      rcases h with (hpiece | hseparator) | hrest
      · exact .inr ⟨piece, by simp, hpiece⟩
      · exact .inl hseparator
      · exact (ih hrest).imp id fun ⟨other, hmem, hc⟩ => ⟨other, List.mem_cons_of_mem _ hmem, hc⟩

/-! ### Cells -/

/-- A character as it stands in a line: a space for line breaks and tabs. -/
def inLine (c : Char) : Char := if c ∈ ['\n', '\r', '\t'] then ' ' else c

/-- A text in one line and cut to the width: the whole text if it is not too long, else as much of
it as leaves room for three dots. -/
inductive Clipped (width : Nat) (text : String) : List Char → Prop
  | whole (h : text.length ≤ width) : Clipped width text (text.toList.map inLine)
  | cut {kept rest : List Char} (h : width < text.length)
    (hsplit : text.toList.map inLine = kept ++ rest) (hkept : kept.length + 3 = width) :
    Clipped width text (kept ++ ['.', '.', '.'])

variable {width : Nat}

theorem clip_eq_ite (width : Nat) (text : String) : clip width text =
    if text.length ≤ width then text.toList.map inLine
    else (text.toList.map inLine).take (width - 3) ++ ['.', '.', '.'] := by
  have hline : (text.toList.map fun c => if c = '\n' || c = '\r' || c = '\t' then ' ' else c) =
      text.toList.map inLine := by
    refine List.map_congr_left fun c _ => ?_
    simp [inLine, or_assoc]
  rw [clip, hline, List.length_map, String.length_toList]

theorem clip_clipped (hwidth : 3 ≤ width) (text : String) :
    Clipped width text (clip width text) := by
  rw [clip_eq_ite]
  split_ifs with h
  · exact .whole h
  · refine .cut (Nat.lt_of_not_le h) (List.take_append_drop (width - 3) _).symm ?_
    rw [List.length_take, List.length_map, String.length_toList]
    omega

theorem length_clip (hwidth : 3 ≤ width) (text : String) :
    (clip width text).length = min text.length width := by
  have hclip := clip_clipped hwidth text
  generalize clip width text = shown at hclip
  cases hclip with
  | whole h => rw [List.length_map, String.length_toList, Nat.min_eq_left h]
  | cut h _ hkept => rw [List.length_append, Nat.min_eq_right h.le, ← hkept]; rfl

theorem feed_notMem_clip (width : Nat) (text : String) : '\n' ∉ clip width text := by
  have hline : '\n' ∉ text.toList.map inLine := by
    rw [List.mem_map]
    rintro ⟨c, -, hc⟩
    unfold inLine at hc
    split_ifs at hc with hbreak
    · exact absurd hc (by decide)
    · exact hbreak (by simp [hc])
  rw [clip_eq_ite]
  split_ifs
  · exact hline
  · rw [List.mem_append, not_or]
    exact ⟨fun h => hline (List.mem_of_mem_take h), by decide⟩

/-! ### Widths -/

theorem wider_eq_max (a b : Nat) : wider a b = max a b := by
  unfold wider
  split_ifs <;> omega

theorem getElem?_widen (widths : List Nat) (cells : List (List Char)) (j : Nat) :
    (widen widths cells)[j]? =
      widths[j]?.map fun w => max w (cells[j]?.elim 0 List.length) := by
  fun_induction widen widths cells generalizing j with
  | case1 w ws cell cells ih =>
    cases j with
    | zero => simp [wider_eq_max]
    | succ j => simpa using ih j
  | case2 ws => simp
  | case3 cells => simp

/-- A column is at most `m` wide if it was before and its cells are. -/
theorem foldl_widen_le_iff (rows : List (List (List Char)))
    (h : (rows.foldl widen widths)[j]? = some w) :
    ∃ v, widths[j]? = some v ∧ ∀ m, w ≤ m ↔
      v ≤ m ∧ ∀ row ∈ rows, ∀ cell, row[j]? = some cell → cell.length ≤ m := by
  -- The first row widens the columns that the others start from.
  induction rows generalizing widths with
  | nil => exact ⟨w, h, by simp⟩
  | cons row rows ih =>
    obtain ⟨u, hu, hle⟩ := ih h
    rw [getElem?_widen, Option.map_eq_some_iff] at hu
    obtain ⟨v, hv, rfl⟩ := hu
    refine ⟨v, hv, fun m => ?_⟩
    have hcell : row[j]?.elim 0 List.length ≤ m ↔
        ∀ cell, row[j]? = some cell → cell.length ≤ m := by
      cases row[j]? <;> simp
    rw [hle, Nat.max_le, hcell, List.forall_mem_cons, and_assoc]

theorem length_foldl_widen (rows : List (List (List Char))) (widths : List Nat) :
    (rows.foldl widen widths).length = widths.length := by
  induction rows generalizing widths with
  | nil => rfl
  | cons row rows ih =>
    have hwiden : (widen widths row).length = widths.length := by
      fun_induction widen widths row with
      | case1 w ws cell cells ih => simp [ih]
      | case2 => rfl
      | case3 => rfl
    rw [List.foldl_cons, ih, hwiden]

variable {t : Table}

theorem length_columnWidths (width : Nat) (t : Table) :
    (t.columnWidths width).length = t.columns.length := by
  rw [columnWidths, length_foldl_widen, List.length_map]

/-- A column is at most `m` wide if its name and its cells, cut to the width, are. -/
theorem columnWidths_le_iff (h : (t.columnWidths width)[j]? = some w) (m : Nat) :
    w ≤ m ↔ (∀ name, t.columns[j]? = some name → (clip width name).length ≤ m) ∧
      ∀ row ∈ t.rows, ∀ cell, row[j]? = some cell → (clip width cell).length ≤ m := by
  obtain ⟨v, hv, hle⟩ := foldl_widen_le_iff _ h
  rw [List.getElem?_map, Option.map_eq_some_iff] at hv
  obtain ⟨name, hname, rfl⟩ := hv
  rw [hle, hname]
  simp only [List.forall_mem_map, List.getElem?_map, Option.map_eq_some_iff, Option.some.injEq,
    forall_eq', forall_exists_index, and_imp, forall_apply_eq_imp_iff₂]

/-! ### Lines -/

theorem getElem?_padded (widths : List Nat) (cells : List (List Char)) (j : Nat) :
    (padded widths cells)[j]? = widths[j]?.map fun w =>
      cells[j]?.getD [] ++ List.replicate (w - (cells[j]?.getD []).length) ' ' := by
  fun_induction padded widths cells generalizing j with
  | case1 cells => simp
  | case2 w ws ih =>
    cases j with
    | zero => simp
    | succ j => simpa using ih j
  | case3 w ws cell cells ih =>
    cases j with
    | zero => simp
    | succ j => simpa using ih j

/-- Cells that are not wider than their columns are filled up to the widths. -/
theorem padded_lengths {cells : List (List Char)}
    (h : ∀ (j w : Nat) (cell : List Char), widths[j]? = some w → cells[j]? = some cell →
      cell.length ≤ w) :
    (padded widths cells).map List.length = widths := by
  refine List.ext_getElem? fun j => ?_
  rw [List.getElem?_map, getElem?_padded, Option.map_map]
  cases hw : widths[j]? with
  | none => rfl
  | some w =>
    cases hcell : cells[j]? with
    | none => simp
    | some cell =>
      have hle := h j w cell hw hcell
      simpa using Nat.add_sub_cancel' hle

/-- The range shows the text, cut to the width, and spaces behind it. -/
def Shown (width : Nat) (text : String) (range : List Char) : Prop :=
  ∃ shown blanks, Clipped width text shown ∧ range = shown ++ List.replicate blanks ' '

/-- The ranges of a line show the texts of a row, and spaces where the row has none. -/
def ShowsRow (width : Nat) (row : List String) (j : Nat) (range : List Char) : Prop :=
  (∀ text, row[j]? = some text → Shown width text range) ∧
    (row[j]? = none → ∀ c ∈ range, c = ' ')

theorem showsRow_of_padded {row : List String} (hwidth : 3 ≤ width) {piece : List Char}
    (h : (padded widths (row.map (clip width)))[j]? = some piece) : ShowsRow width row j piece := by
  rw [getElem?_padded, Option.map_eq_some_iff, List.getElem?_map] at h
  obtain ⟨w, -, rfl⟩ := h
  constructor
  · intro text htext
    rw [htext]
    exact ⟨_, _, clip_clipped hwidth text, rfl⟩
  · intro hnone
    rw [hnone]
    exact fun c hc => (List.mem_replicate.mp hc).2

/-- The line of a row, without the line feed. -/
def rowLine (widths : List Nat) (cells : List (List Char)) : List Char :=
  [' ', '|', ' '].intercalate (padded widths cells)

theorem padded_ne_nil {cells : List (List Char)} (h : widths ≠ []) : padded widths cells ≠ [] := by
  cases widths with
  | nil => exact absurd rfl h
  | cons w widths => cases cells <;> simp [padded]

/-- The line of a row has the columns of the grid if these are wide enough for it. -/
theorem columned_rowLine {row : List String} (hwidth : 3 ≤ width) (hne : widths ≠ [])
    (hfits : ∀ (j w : Nat) (text : String), widths[j]? = some w → row[j]? = some text →
      (clip width text).length ≤ w) :
    Columned widths [' ', '|', ' '] (ShowsRow width row)
      (rowLine widths (row.map (clip width))) := by
  have hlengths : (padded widths (row.map (clip width))).map List.length = widths := by
    refine padded_lengths fun j w cell hw hcell => ?_
    rw [List.getElem?_map, Option.map_eq_some_iff] at hcell
    obtain ⟨text, htext, rfl⟩ := hcell
    exact hfits j w text hw htext
  have hcolumned := @columned_intercalate [' ', '|', ' '] (ShowsRow width row) _ rfl
    (padded_ne_nil hne) fun j piece hpiece => showsRow_of_padded hwidth hpiece
  rwa [hlengths] at hcolumned

theorem feed_notMem_rowLine (widths : List Nat) (row : List String) :
    '\n' ∉ rowLine widths (row.map (clip width)) := by
  intro h
  rcases mem_intercalate h with hseparator | ⟨piece, hpiece, hc⟩
  · exact absurd hseparator (by decide)
  · obtain ⟨j, hj⟩ := List.mem_iff_getElem?.mp hpiece
    rw [getElem?_padded, Option.map_eq_some_iff, List.getElem?_map] at hj
    obtain ⟨w, -, rfl⟩ := hj
    rcases List.mem_append.mp hc with hcell | hblank
    · cases htext : row[j]? with
      | none => simp [htext] at hcell
      | some text => exact feed_notMem_clip width text (by simpa [htext] using hcell)
    · exact absurd (List.mem_replicate.mp hblank).2 (by decide)

/-! ### Grids -/

/-- The lines of a grid without their line feeds, and the widths of its columns. -/
structure Layout where
  widths : List Nat
  header : List Char
  rule : List Char
  body : List (List Char)
  footer : List Char

namespace Layout

def lines (g : Layout) : List (List Char) := g.header :: g.rule :: (g.body ++ [g.footer])

/-- The lines, each with a line feed behind it. -/
def text (g : Layout) : String := String.ofList (g.lines.flatMap (· ++ ['\n']))

/-- The layout is one of the table with cells of at most this width: the header shows the names of
the columns and each line below the rule shows a row, all in the same columns. -/
structure Of (g : Layout) (width : Nat) (t : Table) : Prop where
  lines_length : g.lines.length = t.rows.length + 3
  feed_notMem : ∀ line ∈ g.lines, '\n' ∉ line
  widths_length : g.widths.length = t.columns.length
  widths_le : ∀ w ∈ g.widths, w ≤ width
  line_length : ∀ line ∈ g.lines.dropLast, line.length + 3 = columnStart g.widths g.widths.length
  header : Columned g.widths [' ', '|', ' '] (ShowsRow width t.columns) g.header
  rule : Columned g.widths ['-', '+', '-'] (fun _ range => ∀ c ∈ range, c = '-') g.rule
  body : ∀ (i : Nat) (row : List String), t.rows[i]? = some row →
    ∃ line, g.body[i]? = some line ∧ Columned g.widths [' ', '|', ' '] (ShowsRow width row) line
  footer : g.footer =
    '(' :: ((toString t.rowCount).toList ++ (if t.rowCount = 1 then " row)" else " rows)").toList)

end Layout

/-- The layout of the grid. -/
def layout (width : Nat) (t : Table) : Layout where
  widths := t.columnWidths width
  header := rowLine (t.columnWidths width) (t.columns.map (clip width))
  rule := ['-', '+', '-'].intercalate ((t.columnWidths width).map fun w => List.replicate w '-')
  body := t.rows.map fun row => rowLine (t.columnWidths width) (row.map (clip width))
  footer := '(' ::
    ((toString t.rowCount).toList ++ (if t.rowCount = 1 then " row)" else " rows)").toList)

theorem gridLines_eq_flatMap (hcolumns : t.columns ≠ []) (width : Nat) : gridLines width t =
    ((t.layout width).header :: (t.layout width).rule :: (t.layout width).body).flatMap
      (· ++ ['\n']) := by
  have hempty : t.columns.isEmpty = false := by simpa using hcolumns
  simp only [gridLines, hempty, Bool.false_eq_true, if_false, gridLine, ruleLine, layout, rowLine,
    List.flatMap_def, List.map_cons, List.map_map, Function.comp_def, List.flatten_cons,
    List.append_assoc]

theorem footer_eq (width : Nat) (t : Table) :
    (s!"({t.rowCount} " ++ (if t.rowCount = 1 then "row" else "rows") ++ ")\n").toList =
      (t.layout width).footer ++ ['\n'] := by
  have hplain (s : String) : toString s = s := rfl
  split_ifs with hone <;> simp [layout, hone, hplain]

/-- The grid of a successful table with columns is the text of its layout. -/
theorem grid_eq_text (hsuccess : t.success = true) (hcolumns : t.columns ≠ []) (width : Nat) :
    t.grid width = (t.layout (max width 4)).text := by
  refine String.toList_inj.mp ?_
  rw [grid, hsuccess, wider_eq_max, Layout.text, String.toList_ofList]
  simp only [Bool.not_true, Bool.false_eq_true, if_false]
  rw [String.append_assoc, String.append_assoc, String.toList_append, String.toList_ofList,
    ← String.append_assoc, footer_eq (max width 4), gridLines_eq_flatMap hcolumns, Layout.lines]
  simp

theorem le_of_mem_columnWidths (hwidth : 3 ≤ width) (h : w ∈ t.columnWidths width) : w ≤ width := by
  obtain ⟨j, hj⟩ := List.mem_iff_getElem?.mp h
  refine (columnWidths_le_iff hj width).mpr ⟨fun name _ => ?_, fun row _ cell _ => ?_⟩ <;>
    exact (length_clip hwidth _).trans_le (Nat.min_le_right _ _)

theorem columnWidths_ne_nil (hcolumns : t.columns ≠ []) : t.columnWidths width ≠ [] := by
  rw [← List.length_pos_iff, length_columnWidths, List.length_pos_iff]
  exact hcolumns

theorem columned_rule (hne : widths ≠ []) :
    Columned widths ['-', '+', '-'] (fun _ range => ∀ c ∈ range, c = '-')
      (['-', '+', '-'].intercalate (widths.map fun w => List.replicate w '-')) := by
  have hlengths : (widths.map fun w => List.replicate w '-').map List.length = widths := by
    simp [Function.comp_def]
  have hcolumned := @columned_intercalate ['-', '+', '-'] (fun _ range => ∀ c ∈ range, c = '-')
    (widths.map fun w => List.replicate w '-') rfl (by simpa using hne) fun j piece hpiece => by
      rw [List.getElem?_map, Option.map_eq_some_iff] at hpiece
      obtain ⟨w, -, rfl⟩ := hpiece
      exact fun c hc => (List.mem_replicate.mp hc).2
  rwa [hlengths] at hcolumned

theorem feed_notMem_layout (width : Nat) (t : Table) :
    ∀ line ∈ (t.layout width).lines, '\n' ∉ line := by
  have hrule : '\n' ∉ (t.layout width).rule := by
    intro h
    rcases mem_intercalate h with hseparator | ⟨piece, hpiece, hc⟩
    · exact absurd hseparator (by decide)
    · obtain ⟨w, -, rfl⟩ := List.mem_map.mp hpiece
      exact absurd (List.mem_replicate.mp hc).2 (by decide)
  have hfooter : '\n' ∉ (t.layout width).footer := by
    have hdigits : '\n' ∉ (toString t.rowCount).toList := by
      rw [Nat.toString_eq_ofList_toDigits, String.toList_ofList]
      exact fun h => absurd (isDigit_of_mem_digitsOf _ h) (by decide)
    rw [layout, List.mem_cons, List.mem_append, not_or, not_or]
    refine ⟨by decide, hdigits, ?_⟩
    split_ifs <;> decide
  intro line hline
  rw [Layout.lines, List.mem_cons, List.mem_cons, List.mem_append, List.mem_singleton] at hline
  rcases hline with rfl | rfl | hbody | rfl
  · exact feed_notMem_rowLine _ _
  · exact hrule
  · obtain ⟨row, -, rfl⟩ := List.mem_map.mp hbody
    exact feed_notMem_rowLine _ _
  · exact hfooter

/-- The columns are wide enough for the names. -/
theorem columned_header (hwidth : 3 ≤ width) (hcolumns : t.columns ≠ []) :
    Columned (t.columnWidths width) [' ', '|', ' '] (ShowsRow width t.columns)
      (t.layout width).header := by
  refine columned_rowLine hwidth (columnWidths_ne_nil hcolumns) fun j w name hw hname => ?_
  exact ((columnWidths_le_iff hw w).mp le_rfl).1 name hname

/-- The columns are wide enough for the cells of a row. -/
theorem columned_row (hwidth : 3 ≤ width) (hcolumns : t.columns ≠ []) {row : List String}
    (hrow : row ∈ t.rows) : Columned (t.columnWidths width) [' ', '|', ' '] (ShowsRow width row)
      (rowLine (t.columnWidths width) (row.map (clip width))) := by
  refine columned_rowLine hwidth (columnWidths_ne_nil hcolumns) fun j w cell hw hcell => ?_
  exact ((columnWidths_le_iff hw w).mp le_rfl).2 row hrow cell hcell

theorem lines_layout (width : Nat) (t : Table) : (t.layout width).lines.dropLast =
    (t.layout width).header :: (t.layout width).rule :: (t.layout width).body := by
  rw [Layout.lines, ← List.cons_append, ← List.cons_append, List.dropLast_concat]

theorem layout_of (hwidth : 3 ≤ width) (hcolumns : t.columns ≠ []) :
    (t.layout width).Of width t where
  lines_length := by simp [Layout.lines, layout]
  feed_notMem := feed_notMem_layout width t
  widths_length := length_columnWidths width t
  widths_le w hw := le_of_mem_columnWidths hwidth hw
  line_length line hline := by
    rw [lines_layout, List.mem_cons, List.mem_cons] at hline
    rcases hline with rfl | rfl | hbody
    · exact (columned_header hwidth hcolumns).length_eq
    · exact (columned_rule (columnWidths_ne_nil hcolumns)).length_eq
    · obtain ⟨row, hrow, rfl⟩ := List.mem_map.mp hbody
      exact (columned_row hwidth hcolumns hrow).length_eq
  header := columned_header hwidth hcolumns
  rule := columned_rule (columnWidths_ne_nil hcolumns)
  body i row hrow := ⟨_, by rw [layout, List.getElem?_map, hrow]; rfl,
    columned_row hwidth hcolumns (List.mem_of_getElem? hrow)⟩
  footer := rfl

/-! ### Grids that are too wide -/

/-- The name of a column, or a cell that stands under one, is longer than any column can be. -/
def HasTooLong (t : Table) : Prop :=
  (∃ name ∈ t.columns, maxColumnWidth < name.length) ∨
    ∃ row ∈ t.rows, ∃ cell ∈ row.take t.columns.length, maxColumnWidth < cell.length

theorem mem_take_iff {row : List String} {n : Nat} {cell : String} :
    cell ∈ row.take n ↔ ∃ j < n, row[j]? = some cell := by
  simp only [List.mem_iff_getElem?, List.getElem?_take, Option.ite_none_right_eq_some]

/-- All columns are at most `m` wide if all names and all cells that stand under one are. -/
theorem forall_columnWidths_le_iff (m : Nat) : (∀ w ∈ t.columnWidths width, w ≤ m) ↔
    (∀ name ∈ t.columns, (clip width name).length ≤ m) ∧
      ∀ row ∈ t.rows, ∀ cell ∈ row.take t.columns.length, (clip width cell).length ≤ m := by
  constructor
  · intro h
    have hcolumn {j : Nat} (hj : j < t.columns.length) :
        ∃ w, (t.columnWidths width)[j]? = some w ∧ w ≤ m := by
      rw [← length_columnWidths width] at hj
      exact ⟨_, List.getElem?_eq_getElem hj, h _ (List.getElem_mem hj)⟩
    refine ⟨fun name hname => ?_, fun row hrow cell hcell => ?_⟩
    · obtain ⟨j, hj⟩ := List.mem_iff_getElem?.mp hname
      obtain ⟨w, hw, hle⟩ := hcolumn (List.getElem?_eq_some_iff.mp hj).1
      exact ((columnWidths_le_iff hw m).mp hle).1 name hj
    · obtain ⟨j, hj, hcell⟩ := mem_take_iff.mp hcell
      obtain ⟨w, hw, hle⟩ := hcolumn hj
      exact ((columnWidths_le_iff hw m).mp hle).2 row hrow cell hcell
  · rintro ⟨hnames, hcells⟩ w hw
    obtain ⟨j, hj⟩ := List.mem_iff_getElem?.mp hw
    have hcolumn : j < t.columns.length := by
      rw [← length_columnWidths width]
      exact (List.getElem?_eq_some_iff.mp hj).1
    refine (columnWidths_le_iff hj m).mpr ⟨fun name hname => ?_, fun row hrow cell hcell => ?_⟩
    · exact hnames name (List.mem_of_getElem? hname)
    · exact hcells row hrow cell (mem_take_iff.mpr ⟨j, hcolumn, hcell⟩)

/-- A column gets too wide only if the width for cells allows it and a text is long enough. -/
theorem exists_too_wide_iff (hwidth : 3 ≤ width) :
    (∃ w ∈ t.columnWidths width, maxColumnWidth < w) ↔ maxColumnWidth < width ∧ t.HasTooLong := by
  have hclip (text : String) : (clip width text).length ≤ maxColumnWidth ↔
      (maxColumnWidth < width → text.length ≤ maxColumnWidth) := by
    rw [length_clip hwidth]
    omega
  have hall := @forall_columnWidths_le_iff width t maxColumnWidth
  simp only [hclip] at hall
  rw [← not_iff_not]
  push Not
  rw [hall, HasTooLong]
  push Not
  by_cases hlimit : maxColumnWidth < width
  · simp only [hlimit, forall_const]
  · simp only [hlimit, false_imp_iff, implies_true, and_self]

/-- A table has no grid exactly if a column would be too wide. -/
theorem grid?_eq_none_iff (hsuccess : t.success = true) (width : Nat) :
    t.grid? width = none ↔ maxColumnWidth < width ∧ t.HasTooLong := by
  have hlimit : maxColumnWidth < max width 4 ↔ maxColumnWidth < width := by
    unfold maxColumnWidth
    omega
  rw [← hlimit, ← exists_too_wide_iff (by omega), grid?, hsuccess, wider_eq_max]
  simp

/-- Where no width is given, there always is a grid. -/
theorem grid?_defaultWidth (t : Table) : t.grid? defaultWidth = some (t.grid defaultWidth) := by
  cases hsuccess : t.success with
  | false => rw [grid?, hsuccess]; rfl
  | true =>
    cases hgrid : t.grid? defaultWidth with
    | none => exact absurd ((grid?_eq_none_iff hsuccess _).mp hgrid).1 (by decide)
    | some text =>
      rw [grid?, Option.ite_none_left_eq_some] at hgrid
      rw [hgrid.2]

/-- What a grid is, if there is one: the text of a layout of the table. There is one unless a column
is too wide to be filled up, which needs a text of more than 65535 characters. -/
theorem layout_of_grid (width : Nat) (t : Table) (hsuccess : t.success = true)
    (hcolumns : t.columns ≠ []) :
    (t.grid? width = none ↔ maxColumnWidth < width ∧ t.HasTooLong) ∧
    ∀ text, t.grid? width = some text → ∃ g : Layout, g.Of (max width 4) t ∧ text = g.text := by
  refine ⟨grid?_eq_none_iff hsuccess width, fun text htext => ?_⟩
  refine ⟨_, layout_of (by omega) hcolumns, ?_⟩
  rw [grid?, Option.ite_none_left_eq_some, Option.some.injEq] at htext
  rw [← htext.2, grid_eq_text hsuccess hcolumns]

/-- A row with too many cells, one of them with a line feed, and a row with a long cell alone. -/
def unevenNotes : Table := ofRows ["id", "note"] [["1", "up\ndown", "left"], ["long note"]]

theorem layout_of_grid_unevenNotes :
    unevenNotes.success = true ∧ unevenNotes.columns ≠ [] ∧
    ∃ text, unevenNotes.grid? 6 = some text ∧
      text = "id     | note  \n-------+-------\n1      | up ...\nlon... |       \n(2 rows)\n" ∧
      ∃ g : Layout, g.Of 6 unevenNotes ∧ text = g.text := by
  have hcolumns : unevenNotes.columns ≠ [] := List.cons_ne_nil _ _
  have hgrid : unevenNotes.grid? 6 =
      some "id     | note  \n-------+-------\n1      | up ...\nlon... |       \n(2 rows)\n" := by
    decide +kernel
  exact ⟨rfl, hcolumns, _, hgrid, rfl, (layout_of_grid 6 unevenNotes rfl hcolumns).2 _ hgrid⟩

/-- A column whose name has one character more than a column can have places. -/
def tooWide : Table := ofRows [String.ofList (List.replicate 65536 'x')] []

/-- The name is not longer than the width for cells, and still there is no grid. -/
theorem no_grid_of_tooWide :
    tooWide.success = true ∧ tooWide.columns ≠ [] ∧ tooWide.grid? 65536 = none := by
  refine ⟨rfl, List.cons_ne_nil _ _, (grid?_eq_none_iff rfl 65536).mpr ⟨by decide, .inl ?_⟩⟩
  refine ⟨_, List.mem_singleton_self _, ?_⟩
  rw [String.length_ofList, List.length_replicate]
  decide

end PipeQuery.Table
