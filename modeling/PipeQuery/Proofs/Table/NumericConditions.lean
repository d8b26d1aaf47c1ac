import PipeQuery.Proofs.Arithmetic.DecimalToBinary
import PipeQuery.Proofs.Arithmetic.ReadDecimals
import PipeQuery.Proofs.Table.MixedKeys
import PipeQuery.Table.Condition

/-! Conditions on numbers. Numbers with at most 28 digits are compared as the fractions they stand
for. With more digits, or with a power of ten, each side is read as a decimal or as a binary number,
and the order of what is read is the order of what is written as long as both sides are rounded in
the same way. -/

namespace PipeQuery

/-! ### Cells with numbers -/

namespace WrittenNumber

variable {m : WrittenNumber} {text : String} {d : Decimal}

theorem read?_of_decimal (hin : m.IsIn text) (hd : Decimal.ofNumeral? m.numeral = some d) :
    CellNumber.read? text = some (.exact d) := by
  simp [CellNumber.read?, hin.read?_trim, hd]

theorem read?_of_binary (hin : m.IsIn text) (hd : Decimal.ofNumeral? m.numeral = none)
    (hfinite : m.numeral.toBinary64.isFinite = true) :
    CellNumber.read? text = some (.approximate m.numeral.toBinary64) := by
  simp [CellNumber.read?, hin.read?_trim, hd, hfinite]

/-- Without a power of ten, 28 digits always fit. -/
theorem fits_of_length_le (m : WrittenNumber)
    (hlength : m.whole.length + (m.fraction.getD []).length ≤ 28) : m.numeral.Fits := by
  have hdigits : ∀ c ∈ m.whole ++ m.fraction.getD [], Unicode.isDigit c = true :=
    List.forall_mem_append.mpr ⟨m.isDigit_whole, m.isDigit_fraction⟩
  refine ⟨?_, le_trans (Nat.le_add_left _ _) hlength⟩
  calc digitsValue (m.whole ++ m.fraction.getD [])
      < 10 ^ (m.whole ++ m.fraction.getD []).length := digitsValue_lt hdigits
    _ ≤ 10 ^ 28 := Nat.pow_le_pow_right (by decide) (by rwa [List.length_append])
    _ < Decimal.limit := by decide

/-- A number with at most 28 digits and no power of ten is read as the decimal it stands for. -/
theorem exists_decimal (hin : m.IsIn text) (hpower : m.power = none)
    (hlength : m.whole.length + (m.fraction.getD []).length ≤ 28) :
    ∃ d, CellNumber.read? text = some (.exact d) ∧ d.value = m.value := by
  have hfits := m.fits_of_length_le hlength
  obtain ⟨d, hd⟩ := Decimal.exists_ofNumeral? hfits (by simp [numeral, hpower])
  exact ⟨d, read?_of_decimal hin hd, Decimal.value_of_fits hfits m.isDigit_fraction hd⟩

/-- Digits on both sides of a point. -/
def pointed (sign : WrittenSign) (whole fraction : List Char)
    (hdigits : (whole ++ fraction).all Unicode.isDigit = true) (hne : whole ++ fraction ≠ []) :
    WrittenNumber where
  sign := sign
  whole := whole
  fraction := some fraction
  power := none
  isDigit_whole := fun c hc => List.all_eq_true.mp hdigits c (List.mem_append_left fraction hc)
  isDigit_fraction := fun c hc => List.all_eq_true.mp hdigits c (List.mem_append_right whole hc)
  digits_ne_nil := hne

/-- So many units of the 29th place behind the point, written with a power of ten. -/
def scaled (digits : List Char) (hdigits : digits.all Unicode.isDigit = true) (hne : digits ≠ []) :
    WrittenNumber where
  sign := .absent
  whole := digits
  fraction := none
  power := some ⟨'e', .minus, ['2', '9'], rfl, by decide, List.all_eq_true.mp rfl⟩
  isDigit_whole := List.all_eq_true.mp hdigits
  isDigit_fraction := by simp
  digits_ne_nil := by simpa using hne

theorem isIn_of_toList (h : text.toList = m.chars) : m.IsIn text :=
  ⟨[], [], by simp, by simp, by simpa using h⟩

end WrittenNumber

/-! ### Comparators -/

variable {a b : String} {m n : WrittenNumber}

theorem cellOrder_of_numbers {x y : CellNumber} (ha : CellNumber.read? a = some x)
    (hb : CellNumber.read? b = some y) : cellOrder a b = x.order y := by
  simp [cellOrder, ha, hb]

namespace Comparator

theorem test_eq_holds {c : Comparator} (hc : c.isOrdering = true) :
    test a c b = c.holds (cellOrder a b) := by
  cases c <;> first | exact absurd hc Bool.false_ne_true | rfl

/-- The comparators of order are the six relations of an order. -/
theorem test_iff_of_cellOrder {α : Type} [LinearOrder α] {v w : α} (h : cellOrder a b = cmp v w) :
    (test a .equal b = true ↔ v = w) ∧ (test a .notEqual b = true ↔ v ≠ w) ∧
    (test a .greater b = true ↔ w < v) ∧ (test a .greaterEqual b = true ↔ w ≤ v) ∧
    (test a .less b = true ↔ v < w) ∧ (test a .lessEqual b = true ↔ v ≤ w) := by
  have hcmp := cmp_compares v w
  rw [← h] at hcmp
  refine ⟨?_, ?_, ?_, ?_, ?_, ?_⟩ <;> rw [test_eq_holds (by rfl), holds, decide_eq_true_iff]
  · exact hcmp.eq_eq
  · exact hcmp.eq_eq.not
  · exact hcmp.eq_gt
  · exact hcmp.ne_lt
  · exact hcmp.eq_lt
  · exact hcmp.ne_gt

/-- Numbers of at most 28 digits are compared, and sorted, as the fractions they stand for. -/
theorem test_exact (ha : m.IsIn a) (hb : n.IsIn b) (hm : m.power = none) (hn : n.power = none)
    (hmlength : m.whole.length + (m.fraction.getD []).length ≤ 28)
    (hnlength : n.whole.length + (n.fraction.getD []).length ≤ 28) :
    (test a .equal b = true ↔ m.value = n.value) ∧ (test a .notEqual b = true ↔ m.value ≠ n.value) ∧
    (test a .greater b = true ↔ n.value < m.value) ∧
    (test a .greaterEqual b = true ↔ n.value ≤ m.value) ∧
    (test a .less b = true ↔ m.value < n.value) ∧
    (test a .lessEqual b = true ↔ m.value ≤ n.value) ∧
    (SortKey.ofCell a).order (SortKey.ofCell b) = cmp m.value n.value := by
  obtain ⟨x, hx, hxvalue⟩ := WrittenNumber.exists_decimal ha hm hmlength
  obtain ⟨y, hy, hyvalue⟩ := WrittenNumber.exists_decimal hb hn hnlength
  have horder : (CellNumber.exact x).order (.exact y) = cmp m.value n.value := by
    rw [← hxvalue, ← hyvalue]
    exact x.order_eq_cmp y
  obtain ⟨heq, hne, hgt, hge, hlt, hle⟩ :=
    test_iff_of_cellOrder ((cellOrder_of_numbers hx hy).trans horder)
  refine ⟨heq, hne, hgt, hge, hlt, hle, ?_⟩
  rw [SortKey.ofCell, SortKey.ofCell, hx, hy]
  exact horder

/-- A tenth with a sign and a zero behind it. -/
def tenth : WrittenNumber := .pointed .plus ['0'] ['1', '0'] rfl (by decide)

/-- A tenth and one unit of the last place that 28 digits have. -/
def aboveTenth : WrittenNumber :=
  .pointed .absent ['0'] "100000000000000000000000001".toList rfl (by decide)

theorem test_exact_tenth :
    tenth.IsIn " +0.10\t" ∧ aboveTenth.IsIn "0.100000000000000000000000001" ∧
    tenth.power = none ∧ aboveTenth.power = none ∧
    tenth.whole.length + (tenth.fraction.getD []).length ≤ 28 ∧
    aboveTenth.whole.length + (aboveTenth.fraction.getD []).length ≤ 28 ∧
    tenth.value < aboveTenth.value ∧
    (test " +0.10\t" .equal "0.100000000000000000000000001" = true ↔
      tenth.value = aboveTenth.value) ∧
    test " +0.10\t" .less "0.100000000000000000000000001" = true ∧
    (SortKey.ofCell " +0.10\t").order (SortKey.ofCell "0.100000000000000000000000001") = .lt := by
  have htenth : tenth.IsIn " +0.10\t" :=
    ⟨[' '], ['\t'], List.all_eq_true.mp rfl, List.all_eq_true.mp rfl, by decide +kernel⟩
  have habove : aboveTenth.IsIn "0.100000000000000000000000001" :=
    WrittenNumber.isIn_of_toList (by decide +kernel)
  have hlt : tenth.value < aboveTenth.value := by decide +kernel
  obtain ⟨hequal, -, -, -, hless, -, horder⟩ :=
    test_exact htenth habove rfl rfl (by decide) (by decide)
  exact ⟨htenth, habove, rfl, rfl, by decide, by decide, hlt, hequal, hless.mpr hlt,
    horder.trans ((cmp_eq_lt_iff _ _).mpr hlt)⟩

end Comparator

/-! ### Numbers that are rounded -/

/-- The number is what the numeral is read as. -/
def Numeral.IsReadAs (q : Numeral) : CellNumber → Prop
  | .exact d => Decimal.ofNumeral? q = some d
  | .approximate z => z = q.toBinary64 ∧ z.isFinite = true

theorem WrittenNumber.exists_isReadAs (hin : m.IsIn a)
    (hfinite : m.numeral.toBinary64.isFinite = true) :
    ∃ x, CellNumber.read? a = some x ∧ m.numeral.IsReadAs x := by
  cases hd : Decimal.ofNumeral? m.numeral with
  | some d => exact ⟨.exact d, read?_of_decimal hin hd, hd⟩
  | none => exact ⟨.approximate _, read?_of_binary hin hd hfinite, rfl, hfinite⟩

namespace CellNumber

/-- The numbers that `q` and `r` are read as, which are the arguments, are rounded alike: two
decimals if no power of ten moves the point after digits were dropped, and other pairs if each
decimal is converted to the binary number nearest to what is written, and no zero has a sign that
the other one lacks. -/
def RoundedAlike (q r : Numeral) : CellNumber → CellNumber → Prop
  | .exact _, .exact _ => q.IsRounded ∧ r.IsRounded
  | .exact x, .approximate w => x.toBinary64.IsNearestTo q.value ∧
      (q.value = 0 → r.value = 0 → x.toBinary64.isNegative = w.isNegative)
  | .approximate z, .exact y => y.toBinary64.IsNearestTo r.value ∧
      (q.value = 0 → r.value = 0 → z.isNegative = y.toBinary64.isNegative)
  | .approximate z, .approximate w => q.value = 0 → r.value = 0 → z.isNegative = w.isNegative

end CellNumber

/-- A short decimal that is read exactly is converted to the binary number nearest to what is
written. -/
theorem WrittenNumber.isNearestTo_of_isShort {d : Decimal}
    (hd : Decimal.ofNumeral? m.numeral = some d) (hfits : m.numeral.Fits)
    (hshort : Decimal.Magnitude.IsShort ⟨d.coefficient.natAbs, d.scale⟩) :
    d.toBinary64.IsNearestTo m.value := by
  have hvalue : d.value = m.value := Decimal.value_of_fits hfits m.isDigit_fraction hd
  rw [← hvalue]
  exact Decimal.toBinary64_isNearestTo hshort

/-- What keeps the order of values keeps it for a comparison. -/
theorem cmp_of_monotone {α : Type} [LinearOrder α] {x y : α} {u v : ℚ} (heq : u = v → x = y)
    (hle : u < v → x ≤ y) : (u = v → cmp x y = .eq) ∧ (u < v → cmp x y ≠ .gt) :=
  ⟨fun h => (cmp_eq_eq_iff x y).mpr (heq h), fun h => (cmp_compares x y).ne_gt.mpr (hle h)⟩

theorem Binary64.IsNearestTo.cmp_rank {z w : Binary64} {u v : ℚ} (hz : z.IsNearestTo u)
    (hw : w.IsNearestTo v) (hsign : u = 0 → v = 0 → z.isNegative = w.isNegative) :
    (u = v → cmp z.rank w.rank = .eq) ∧ (u < v → cmp z.rank w.rank ≠ .gt) := by
  refine cmp_of_monotone ?_ (hz.rank_le hw)
  rintro rfl
  exact (hz.rank_eq_iff hw).mpr fun h => hsign h h

theorem Decimal.cmp_value {d e : Decimal} {u v : ℚ} (hd : |u| < limit ∧ d.value = nearby u)
    (he : |v| < limit ∧ e.value = nearby v) :
    (u = v → cmp d.value e.value = .eq) ∧ (u < v → cmp d.value e.value ≠ .gt) := by
  rw [hd.2, he.2]
  refine cmp_of_monotone (congrArg nearby) fun hlt => ?_
  exact nearby_mono hlt.le ((neg_le_abs u).trans_lt hd.1) ((le_abs_self v).trans_lt he.1)

/-- Numbers that are rounded alike are in the order of what is written. -/
theorem CellNumber.RoundedAlike.order {x y : CellNumber} (hx : m.numeral.IsReadAs x)
    (hy : n.numeral.IsReadAs y) (h : RoundedAlike m.numeral n.numeral x y) :
    (m.value = n.value → x.order y = .eq) ∧ (m.value < n.value → x.order y ≠ .gt) := by
  cases x with
  | exact d =>
    cases y with
    | exact e =>
      rw [order_exact]
      exact Decimal.cmp_value (Decimal.ofNumeral?_value h.1 m.isDigit_fraction hx)
        (Decimal.ofNumeral?_value h.2 n.isDigit_fraction hy)
    | approximate w =>
      rw [order_approximate_right]
      obtain ⟨rfl, hfinite⟩ := hy
      exact h.1.cmp_rank (Binary64.toBinary64_isNearestTo hfinite) h.2
  | approximate z =>
    obtain ⟨rfl, hfinite⟩ := hx
    have hnearest := Binary64.toBinary64_isNearestTo hfinite
    rw [order_approximate_left]
    cases y with
    | exact e => exact hnearest.cmp_rank h.1 h.2
    | approximate w =>
      obtain ⟨rfl, hfinite'⟩ := hy
      exact hnearest.cmp_rank (Binary64.toBinary64_isNearestTo hfinite') h

namespace Comparator

/-- Texts that are written as finite numbers are always compared as numbers, and conditions on them
do not contradict what is written as long as the two are rounded alike. -/
theorem test_roundedAlike (ha : m.IsIn a) (hb : n.IsIn b)
    (hm : m.numeral.toBinary64.isFinite = true) (hn : n.numeral.toBinary64.isFinite = true) :
    ∃ x y, CellNumber.read? a = some x ∧ CellNumber.read? b = some y ∧
      (CellNumber.RoundedAlike m.numeral n.numeral x y →
        (m.value = n.value → test a .equal b = true) ∧
        (m.value < n.value → test a .greater b = false)) := by
  obtain ⟨x, hx, hxread⟩ := WrittenNumber.exists_isReadAs ha hm
  obtain ⟨y, hy, hyread⟩ := WrittenNumber.exists_isReadAs hb hn
  refine ⟨x, y, hx, hy, fun halike => ?_⟩
  obtain ⟨heq, hlt⟩ := halike.order hxread hyread
  rw [test_eq_holds (by rfl), test_eq_holds (by rfl), cellOrder_of_numbers hx hy]
  exact ⟨fun h => decide_eq_true (heq h), fun h => decide_eq_false (hlt h)⟩

/-- Three tenths, written as a decimal. -/
def threeTenths : WrittenNumber := .pointed .absent ['0'] ['3'] rfl (by decide)

/-- Three tenths with a power of ten that decimals do not have. -/
def threeTenthsScaled : WrittenNumber :=
  .scaled "30000000000000000000000000000".toList rfl (by decide)

theorem test_roundedAlike_threeTenths :
    threeTenths.IsIn "0.3" ∧ threeTenthsScaled.IsIn "30000000000000000000000000000e-29" ∧
    threeTenths.numeral.toBinary64.isFinite = true ∧
    threeTenthsScaled.numeral.toBinary64.isFinite = true ∧
    CellNumber.RoundedAlike threeTenths.numeral threeTenthsScaled.numeral (.exact ⟨3, 1⟩)
      (.approximate threeTenthsScaled.numeral.toBinary64) ∧
    threeTenths.value = threeTenthsScaled.value ∧
    test "0.3" .equal "30000000000000000000000000000e-29" = true := by
  have hplain : threeTenths.IsIn "0.3" := WrittenNumber.isIn_of_toList (by decide +kernel)
  have hscaled : threeTenthsScaled.IsIn "30000000000000000000000000000e-29" :=
    WrittenNumber.isIn_of_toList (by decide +kernel)
  have hfinite : threeTenths.numeral.toBinary64.isFinite = true := by decide +kernel
  have hfinite' : threeTenthsScaled.numeral.toBinary64.isFinite = true := by decide +kernel
  have hdecimal : Decimal.ofNumeral? threeTenths.numeral = some ⟨3, 1⟩ := by decide +kernel
  have hbinary : Decimal.ofNumeral? threeTenthsScaled.numeral = none := by decide +kernel
  have hnonzero : threeTenths.value ≠ 0 := by decide +kernel
  have hequal : threeTenths.value = threeTenthsScaled.value := by decide +kernel
  have halike : CellNumber.RoundedAlike threeTenths.numeral threeTenthsScaled.numeral
      (.exact ⟨3, 1⟩) (.approximate threeTenthsScaled.numeral.toBinary64) :=
    ⟨WrittenNumber.isNearestTo_of_isShort hdecimal ⟨by decide, by decide⟩
      (.inr ⟨by decide, by decide⟩), fun hzero => absurd hzero hnonzero⟩
  obtain ⟨x, y, hx, hy, htest⟩ := test_roundedAlike hplain hscaled hfinite hfinite'
  cases (WrittenNumber.read?_of_decimal hplain hdecimal).symm.trans hx
  cases (WrittenNumber.read?_of_binary hscaled hbinary hfinite').symm.trans hy
  exact ⟨hplain, hscaled, hfinite, hfinite', halike, hequal, (htest halike).1 hequal⟩

/-- Five units of the 29th place, written out. -/
def tiny : WrittenNumber :=
  .pointed .absent ['0'] "00000000000000000000000000005".toList rfl (by decide)

/-- The 29th place is rounded away where it is written out, and kept where it is written with a
power of ten. So two texts for one number are not equal, and one of them is greater than a text for
a larger number. -/
theorem test_contradicts :
    tiny.IsIn "0.00000000000000000000000000005" ∧ tiny.numeral.toBinary64.isFinite = true ∧
    (∃ five : WrittenNumber, five.IsIn "5e-29" ∧ five.numeral.toBinary64.isFinite = true ∧
      tiny.value = five.value ∧
      test "0.00000000000000000000000000005" .equal "5e-29" = false) ∧
    ∃ six : WrittenNumber, six.IsIn "6e-29" ∧ six.numeral.toBinary64.isFinite = true ∧
      tiny.value < six.value ∧
      test "0.00000000000000000000000000005" .greater "6e-29" = true := by
  refine ⟨WrittenNumber.isIn_of_toList (by decide +kernel), by decide +kernel, ?_, ?_⟩
  · exact ⟨.scaled ['5'] rfl (by decide), WrittenNumber.isIn_of_toList (by decide +kernel),
      by decide +kernel, by decide +kernel, by decide +kernel⟩
  · exact ⟨.scaled ['6'] rfl (by decide), WrittenNumber.isIn_of_toList (by decide +kernel),
      by decide +kernel, by decide +kernel, by decide +kernel⟩

end Comparator

end PipeQuery
