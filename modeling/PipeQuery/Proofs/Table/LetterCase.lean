import PipeQuery.Proofs.Unicode.LetterCase
import PipeQuery.Table.Condition

/-! Conditions and the case of Latin letters. The only letter in a number is the mark of its power of
ten, which is read in both cases, so a cell is the same number or none in either case, and its lower
case is the same as well. Patterns apart, no comparator sees the case of such a letter on either
side. -/

namespace PipeQuery

open Unicode

/-! ### Numbers -/

namespace Numeral

theorem splitSign_map_toLower (cs : List Char) :
    splitSign (cs.map Char.toLower) =
      ((splitSign cs).1, (splitSign cs).2.map Char.toLower) := by
  rcases cs with _ | ⟨c, cs⟩
  · rfl
  · have hminus : c.toLower = '-' ↔ c = '-' := toLower_eq_iff (by decide) c
    have hplus : c.toLower = '+' ↔ c = '+' := toLower_eq_iff (by decide) c
    by_cases hc : c = '-' ∨ c = '+'
    · rcases hc with rfl | rfl <;> rfl
    · rw [not_or] at hc
      simp [splitSign, hminus, hplus, hc.1, hc.2]

theorem splitAt_map_toLower {p : Char → Bool} (h : ∀ c, p c.toLower = p c) (cs : List Char) :
    splitAt p (cs.map Char.toLower) =
      ((splitAt p cs).1.map Char.toLower, (splitAt p cs).2.map (List.map Char.toLower)) := by
  have hnot : ∀ c, (!p c.toLower) = !p c := fun c => congrArg _ (h c)
  rw [splitAt, splitAt, dropWhile_map_toLower hnot, takeWhile_map_toLower hnot]
  cases cs.dropWhile fun c => !p c <;> rfl

theorem isExponentMark_toLower (c : Char) : isExponentMark c.toLower = isExponentMark c :=
  apply_toLower (by decide) c

theorem isPoint_toLower (c : Char) : decide (c.toLower = '.') = decide (c = '.') :=
  decide_eq_decide.mpr (toLower_eq_iff (by decide) c)

theorem all_isDigit_map_toLower (cs : List Char) :
    (cs.map Char.toLower).all isDigit = cs.all isDigit := by
  rw [List.all_map]
  exact congrArg cs.all (funext isDigit_toLower)

theorem map_toLower_of_digits {cs : List Char} (h : cs.all isDigit = true) :
    cs.map Char.toLower = cs := by
  conv_rhs => rw [← List.map_id cs]
  exact List.map_congr_left fun c hc => toLower_of_isDigit (List.all_eq_true.mp h c hc)

theorem exponent?_map_toLower (cs : List Char) :
    exponent? (cs.map Char.toLower) = exponent? cs := by
  rw [exponent?, exponent?, splitSign_map_toLower]
  obtain ⟨negative, digits⟩ := splitSign cs
  dsimp only
  rw [List.isEmpty_map, all_isDigit_map_toLower]
  by_cases hdigits : digits.all isDigit = true
  · rw [map_toLower_of_digits hdigits]
  · simp [hdigits]

/-- A number is read as the same one in either case, and what is none stays none. -/
theorem read?_map_toLower (cs : List Char) : read? (cs.map Char.toLower) = read? cs := by
  rw [read?, read?, splitSign_map_toLower]
  obtain ⟨negative, body⟩ := splitSign cs
  dsimp only
  rw [splitAt_map_toLower isExponentMark_toLower]
  obtain ⟨mantissa, power⟩ := splitAt isExponentMark body
  dsimp only
  rw [splitAt_map_toLower isPoint_toLower]
  obtain ⟨whole, fraction⟩ := splitAt (· = '.') mantissa
  have hfraction : (fraction.map (List.map Char.toLower)).getD [] =
      (fraction.getD []).map Char.toLower := by
    cases fraction <;> rfl
  dsimp only
  rw [hfraction, List.isEmpty_map, List.isEmpty_map, all_isDigit_map_toLower,
    all_isDigit_map_toLower]
  split_ifs with hnone
  · rfl
  · simp only [Bool.or_eq_true, not_or, Bool.not_eq_true', Bool.not_eq_false] at hnone
    rw [map_toLower_of_digits hnone.1.2, map_toLower_of_digits hnone.2]
    cases power with
    | none => rfl
    | some cs => simp [exponent?_map_toLower]

end Numeral

theorem CellNumber.read?_toLower (cell : String) :
    CellNumber.read? cell.toLower = CellNumber.read? cell := by
  rw [CellNumber.read?, toList_toLower, trim_map_toLower, Numeral.read?_map_toLower,
    CellNumber.read?]

/-! ### Conditions -/

theorem cellOrder_toLower (cell value : String) :
    cellOrder cell.toLower value.toLower = cellOrder cell value := by
  rw [cellOrder, CellNumber.read?_toLower, CellNumber.read?_toLower, lowercase_toLower,
    lowercase_toLower, cellOrder]

namespace Comparator

theorem test_toLower {c : Comparator} (hc : c ≠ .matches) (cell value : String) :
    test cell.toLower c value.toLower = test cell c value := by
  cases c with
  | «matches» => exact absurd rfl hc
  | _ => simp only [test, lowercase_toLower, cellOrder_toLower]

/-- Cells that differ in the case of letters from A to Z at most meet the same conditions, and so do
conditions whose values differ so. -/
theorem test_eq_of_toLower_eq {cell cell' value value' : String} {c : Comparator}
    (hcell : cell.toLower = cell'.toLower) (hvalue : value.toLower = value'.toLower)
    (hc : c ≠ .matches) : test cell c value = test cell' c value' := by
  calc test cell c value = test cell.toLower c value.toLower := (test_toLower hc cell value).symm
    _ = test cell'.toLower c value'.toLower := by rw [hcell, hvalue]
    _ = test cell' c value' := test_toLower hc cell' value'

/-- The letter behind a sigma keeps it from being a final one, and the letter in a number marks its
power of ten. -/
theorem test_eq_of_toLower_eq_mixed :
    "ΟΔΟΣk".toLower = "ΟΔΟΣK".toLower ∧ "σK".toLower = "σk".toLower ∧
    test "ΟΔΟΣk" .endsWith "σK" = true ∧
    test "ΟΔΟΣk" .endsWith "σK" = test "ΟΔΟΣK" .endsWith "σk" ∧
    " 1.5E2".toLower = " 1.5e2".toLower ∧ "150".toLower = "150".toLower ∧
    test " 1.5E2" .equal "150" = true ∧
    test " 1.5E2" .equal "150" = test " 1.5e2" .equal "150" := by
  have hcell : "ΟΔΟΣk".toLower = "ΟΔΟΣK".toLower := toLower_eq_toLower_iff.mpr (by decide +kernel)
  have hvalue : "σK".toLower = "σk".toLower := toLower_eq_toLower_iff.mpr (by decide +kernel)
  have hnumber : " 1.5E2".toLower = " 1.5e2".toLower :=
    toLower_eq_toLower_iff.mpr (by decide +kernel)
  exact ⟨hcell, hvalue, by decide +kernel, test_eq_of_toLower_eq hcell hvalue (by decide), hnumber,
    rfl, by decide +kernel, test_eq_of_toLower_eq hnumber rfl (by decide)⟩

end Comparator

end PipeQuery
