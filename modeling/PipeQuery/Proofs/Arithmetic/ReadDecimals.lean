import PipeQuery.Proofs.Arithmetic.Decimals
import PipeQuery.Proofs.Arithmetic.Digits
import PipeQuery.Proofs.Arithmetic.WrittenNumber

/-! The decimals that numerals are read as. A numeral with few enough digits is read exactly. If
digits are dropped, what is left is rounded before the power of ten moves the point, so the numeral
is read as its value rounded only without a power of ten. -/

namespace PipeQuery

open Unicode

namespace Decimal

/-! ### Digits -/

/-- The fraction with the coefficient `c` and `s` places, and with the digits `cs` behind these. -/
def valueOf (c s : Nat) (cs : List Char) : ℚ :=
  (c * 10 ^ cs.length + digitsValue cs : Nat) / 10 ^ (s + cs.length)

theorem valueOf_nil (c s : Nat) : valueOf c s [] = Magnitude.value ⟨c, s⟩ := by
  simp [valueOf, Magnitude.value, digitsValue]

theorem coefficient_cons (c : Nat) (x : Char) (cs : List Char) :
    c * 10 ^ (x :: cs).length + digitsValue (x :: cs) =
      (10 * c + digitValue x) * 10 ^ cs.length + digitsValue cs := by
  rw [digitsValue_cons, List.length_cons, Nat.pow_succ]
  ring

theorem valueOf_cons (c s : Nat) (x : Char) (cs : List Char) :
    valueOf c s (x :: cs) = valueOf (10 * c + digitValue x) (s + 1) cs := by
  rw [valueOf, valueOf, coefficient_cons, List.length_cons, Nat.add_right_comm, ← Nat.add_assoc s]

variable {c s : Nat} {x : Char} {cs : List Char} {m : Magnitude}

/-- The digits behind the places count for less than one unit of the last place. -/
theorem valueOf_bounds (hcs : ∀ y ∈ cs, isDigit y = true) (c s : Nat) :
    0 ≤ valueOf c s cs ∧ c ≤ valueOf c s cs * 10 ^ s ∧ valueOf c s cs * 10 ^ s < c + 1 := by
  have hdigits : (digitsValue cs : ℚ) < 10 ^ cs.length := by exact_mod_cast digitsValue_lt hcs
  have hlt : (digitsValue cs : ℚ) / 10 ^ cs.length < 1 := (div_lt_one (by positivity)).mpr hdigits
  have hnonneg : (0 : ℚ) ≤ digitsValue cs / 10 ^ cs.length := by positivity
  have heq : valueOf c s cs * 10 ^ s = c + digitsValue cs / 10 ^ cs.length := by
    rw [valueOf, pow_add]
    push_cast
    field_simp
  refine ⟨by unfold valueOf; positivity, ?_, ?_⟩ <;> rw [heq] <;> linarith

/-- No further place fits when the next digit would make the coefficient too large. -/
theorem placesFor_valueOf (hcs : ∀ y ∈ x :: cs, isDigit y = true) (hc : c < limit)
    (hs : s ≤ maxScale) (hfull : s = maxScale ∨ limit ≤ 10 * c + digitValue x) :
    placesFor (valueOf c s (x :: cs)) = s := by
  obtain ⟨hnonneg, -, hlt⟩ := valueOf_bounds hcs c s
  refine placesFor_eq hnonneg hs (hlt.trans_le (by exact_mod_cast hc)) (hfull.imp_right fun h => ?_)
  rw [valueOf_cons]
  obtain ⟨-, hle, -⟩ :=
    valueOf_bounds (List.forall_mem_cons.mp hcs).2 (10 * c + digitValue x) (s + 1)
  exact le_trans (by exact_mod_cast h) hle

/-- The digits behind the first dropped one do not change how it rounds. -/
theorem floor_valueOf (hcs : ∀ y ∈ x :: cs, isDigit y = true) :
    ⌊valueOf c s (x :: cs) * 10 ^ s + 1 / 2⌋₊ = if digitValue x < 5 then c else c + 1 := by
  obtain ⟨-, hlow, hhigh⟩ :=
    valueOf_bounds (List.forall_mem_cons.mp hcs).2 (10 * c + digitValue x) (s + 1)
  rw [← valueOf_cons, pow_succ] at hlow hhigh
  obtain ⟨hnonneg, -, hlt⟩ := valueOf_bounds hcs c s
  rw [Nat.floor_eq_iff (by positivity)]
  push_cast at hlow hhigh
  split_ifs with hdown
  · have hd : (digitValue x : ℚ) ≤ 4 := by exact_mod_cast Nat.le_of_lt_succ hdown
    have hd0 : (0 : ℚ) ≤ digitValue x := by positivity
    constructor <;> linarith
  · have hd : (5 : ℚ) ≤ digitValue x := by exact_mod_cast Nat.le_of_not_lt hdown
    push_cast
    constructor <;> linarith

theorem roundBy_value (hcs : ∀ y ∈ x :: cs, isDigit y = true) (hc : c < limit)
    (hs : s ≤ maxScale) (hfull : s = maxScale ∨ limit ≤ 10 * c + digitValue x)
    (h : roundBy c s (digitValue x) = some m) :
    m.InRange ∧ m.value = rounded (valueOf c s (x :: cs)) := by
  rw [rounded, placesFor_valueOf hcs hc hs hfull, floor_valueOf hcs]
  rw [roundBy] at h
  split_ifs at h with hdown hup hscale
  · cases h
    rw [if_pos hdown, carried, if_pos hc]
    exact ⟨⟨hc, hs⟩, rfl⟩
  · cases h
    rw [if_neg hdown, carried, if_pos hup]
    exact ⟨⟨hup, hs⟩, rfl⟩
  · -- The coefficient is the largest one, and the next multiple of ten is one digit shorter.
    cases h
    have hlast : c + 5 = limit + 4 := by omega
    obtain ⟨t, rfl⟩ := Nat.exists_eq_succ_of_ne_zero hscale
    refine ⟨⟨?_, (Nat.le_succ t).trans hs⟩, ?_⟩
    · show (c + 5) / 10 < limit
      unfold limit at hc ⊢
      omega
    · have hten : ((c + 5) / 10 : Nat) * (10 : ℚ) = (limit + 4 : Nat) := by
        rw [hlast]
        norm_num [limit]
      rw [if_neg hdown, carried, if_neg hup, Magnitude.value, Nat.succ_sub_one, pow_succ, ← hten]
      field_simp

/-- Dropped digits are rounded. -/
theorem appendFraction_value (hcs : ∀ y ∈ cs, isDigit y = true) (hc : c < limit)
    (hs : s < maxScale ∨ cs = [] ∧ s ≤ maxScale) (h : appendFraction c s cs = some m) :
    m.InRange ∧ m.value = rounded (valueOf c s cs) := by
  fun_induction appendFraction c s cs with
  | case1 c s =>
    cases h
    have hin : Magnitude.InRange ⟨c, s⟩ := ⟨hc, hs.elim Nat.le_of_lt And.right⟩
    rw [valueOf_nil, rounded_of_inRange hin]
    exact ⟨hin, rfl⟩
  | case2 c s x cs next hlarge =>
    have hplace : s < maxScale := hs.resolve_right (by simp)
    exact roundBy_value hcs hc hplace.le (.inr hlarge) h
  | case3 c s x next hnext =>
    have hplace : s < maxScale := hs.resolve_right (by simp)
    cases h
    have hin : Magnitude.InRange ⟨next, s + 1⟩ := ⟨Nat.lt_of_not_le hnext, hplace⟩
    rw [valueOf_cons, valueOf_nil, rounded_of_inRange hin]
    exact ⟨hin, rfl⟩
  | case4 c s x next hnext y ys hfull =>
    have hplace : s < maxScale := hs.resolve_right (by simp)
    rw [valueOf_cons]
    exact roundBy_value (List.forall_mem_cons.mp hcs).2 (Nat.lt_of_not_le hnext) hplace
      (.inl (hfull.antisymm' hplace)) h
  | case5 c s x next hnext y ys hroom ih =>
    rw [valueOf_cons]
    exact ih (List.forall_mem_cons.mp hcs).2 (Nat.lt_of_not_le hnext)
      (.inl (Nat.lt_of_not_le hroom)) h

/-- Nothing is dropped if the coefficient of all digits is small enough and there are places for
them. -/
theorem exists_appendFraction (hsmall : c * 10 ^ cs.length + digitsValue cs < limit)
    (hs : s + cs.length ≤ maxScale) :
    ∃ m, appendFraction c s cs = some m ∧ m.value = valueOf c s cs := by
  fun_induction appendFraction c s cs with
  | case1 c s => exact ⟨_, rfl, (valueOf_nil c s).symm⟩
  | case2 c s x cs next hlarge =>
    rw [coefficient_cons] at hsmall
    have hle : next ≤ next * 10 ^ cs.length := Nat.le_mul_of_pos_right _ (by positivity)
    exact absurd hlarge (Nat.not_le.mpr (hle.trans_lt (Nat.lt_of_add_right_lt hsmall)))
  | case3 c s x next hnext => exact ⟨_, rfl, by rw [valueOf_cons, valueOf_nil]⟩
  | case4 c s x next hnext y ys hfull =>
    simp only [List.length_cons] at hs
    omega
  | case5 c s x next hnext y ys hroom ih =>
    rw [coefficient_cons] at hsmall
    rw [List.length_cons] at hs
    rw [valueOf_cons]
    exact ih hsmall (by omega)

/-! ### Powers of ten -/

/-- Moving the point changes no digit, and what does not fit is refused. -/
theorem shift?_value {y : Magnitude} {power : Int} (hm : m.InRange) (h : shift? m power = some y) :
    y.InRange ∧ y.value = m.value * 10 ^ power := by
  have hgrow (hpower : ¬power < 0) : (10 : ℚ) ^ power = 10 ^ power.natAbs := by
    rw [← zpow_natCast, Int.natAbs_of_nonneg (Int.not_lt.mp hpower)]
  dsimp only [shift?] at h
  split_ifs at h with hneg hfar hplaces hfar' hsmall
  · cases h
    have hpower : power = -(power.natAbs : Int) := by omega
    refine ⟨⟨hm.1, Nat.le_of_not_lt (not_or.mp hfar).2⟩, ?_⟩
    rw [hpower, Int.natAbs_neg, Int.natAbs_natCast, zpow_neg, zpow_natCast, Magnitude.value,
      Magnitude.value, pow_add]
    field_simp
  · cases h
    refine ⟨⟨hm.1, (Nat.sub_le _ _).trans hm.2⟩, ?_⟩
    rw [hgrow hneg, Magnitude.value, Magnitude.value, div_mul_eq_mul_div,
      div_eq_div_iff (by positivity) (by positivity), mul_assoc, ← pow_add,
      Nat.add_sub_cancel' hplaces]
  · cases h
    have hle : m.scale ≤ power.natAbs := Nat.le_of_not_le hplaces
    refine ⟨⟨hsmall, Nat.zero_le _⟩, ?_⟩
    rw [hgrow hneg, Magnitude.value, Magnitude.value, pow_zero, div_one, Nat.pow_eq]
    push_cast
    rw [pow_sub₀ _ (by norm_num) hle]
    field_simp

theorem shift?_zero (m : Magnitude) : shift? m 0 = some m := by simp [shift?]

/-- A power that is not refused moves the point by no more than the number of places. -/
theorem power_le_of_shift? {y : Magnitude} {power : Int} (hm : m.InRange)
    (h : shift? m power = some y) : power ≤ maxScale := by
  have hscale : m.scale ≤ maxScale := hm.2
  dsimp only [shift?] at h
  split_ifs at h with hneg hfar hplaces hfar' hsmall <;> omega

end Decimal

/-! ### Numerals -/

namespace Numeral

/-- All digits together make a coefficient that is small enough, and there are places for those
behind the point. -/
def Fits (x : Numeral) : Prop :=
  digitsValue (x.whole ++ x.fraction) < Decimal.limit ∧ x.fraction.length ≤ Decimal.maxScale

/-- All digits are kept, or there is no power of ten to move the point of what they are rounded
to. -/
def IsRounded (x : Numeral) : Prop := x.Fits ∨ x.exponent = none

end Numeral

namespace Decimal

variable {x : Numeral} {d : Decimal} {m : Magnitude}

theorem valueOf_digits (x : Numeral) : valueOf (digitsValue x.whole) 0 x.fraction =
    digitsValue (x.whole ++ x.fraction) / 10 ^ x.fraction.length := by
  rw [valueOf, digitsValue_append, Nat.zero_add]

theorem magnitude_eq_valueOf (x : Numeral) :
    x.magnitude = valueOf (digitsValue x.whole) 0 x.fraction * 10 ^ x.exponent.getD 0 := by
  rw [valueOf_digits, Numeral.magnitude]

theorem ofDigits?_value (hdigits : ∀ c ∈ x.fraction, isDigit c = true)
    (h : ofDigits? x.whole x.fraction = some m) :
    valueOf (digitsValue x.whole) 0 x.fraction < limit ∧ m.InRange ∧
      m.value = rounded (valueOf (digitsValue x.whole) 0 x.fraction) := by
  rw [ofDigits?, Option.ite_none_right_eq_some] at h
  obtain ⟨hwhole, h⟩ := h
  obtain ⟨-, -, hlt⟩ := valueOf_bounds hdigits (digitsValue x.whole) 0
  refine ⟨?_, appendFraction_value hdigits hwhole (.inl (by decide)) h⟩
  rw [pow_zero, mul_one] at hlt
  exact hlt.trans_le (by exact_mod_cast hwhole)

theorem exists_ofDigits? (h : x.Fits) : ∃ m, ofDigits? x.whole x.fraction = some m ∧
    m.value = valueOf (digitsValue x.whole) 0 x.fraction := by
  have hsmall := h.1
  rw [digitsValue_append] at hsmall
  have hwhole : digitsValue x.whole < limit :=
    (Nat.le_mul_of_pos_right _ (by positivity)).trans_lt (Nat.lt_of_add_right_lt hsmall)
  rw [ofDigits?, if_pos hwhole]
  exact exists_appendFraction hsmall (by simpa using h.2)

/-- A numeral is read in two steps, and without a power of ten the second one changes nothing. -/
theorem ofNumeral?_eq_some_iff : ofNumeral? x = some d ↔ ∃ m y,
    ofDigits? x.whole x.fraction = some m ∧ shift? m (x.exponent.getD 0) = some y ∧
      withSign x.negative y = d := by
  unfold ofNumeral?
  cases ofDigits? x.whole x.fraction with
  | none => simp
  | some m => cases x.exponent <;> simp [shift?_zero]

/-- A numeral that fits is read exactly if it is read at all. -/
theorem exists_magnitude_of_fits (hfits : x.Fits) (hdigits : ∀ c ∈ x.fraction, isDigit c = true)
    (h : ofNumeral? x = some d) :
    ∃ y, d = withSign x.negative y ∧ y.InRange ∧ y.value = x.magnitude := by
  obtain ⟨m, hread, hexact⟩ := exists_ofDigits? hfits
  obtain ⟨m', y, hread', hy, rfl⟩ := ofNumeral?_eq_some_iff.mp h
  cases hread.symm.trans hread'
  obtain ⟨-, hin, -⟩ := ofDigits?_value hdigits hread
  obtain ⟨hin', hvalue⟩ := shift?_value hin hy
  exact ⟨y, rfl, hin', by rw [hvalue, hexact, magnitude_eq_valueOf]⟩

theorem value_of_fits (hfits : x.Fits) (hdigits : ∀ c ∈ x.fraction, isDigit c = true)
    (h : ofNumeral? x = some d) : d.value = x.value := by
  obtain ⟨y, rfl, -, hvalue⟩ := exists_magnitude_of_fits hfits hdigits h
  rw [value_withSign, hvalue]
  rfl

/-- Without a power of ten, a numeral that fits is always read as a decimal. -/
theorem exists_ofNumeral? (hfits : x.Fits) (hexponent : x.exponent = none) :
    ∃ d, ofNumeral? x = some d := by
  obtain ⟨m, hread, -⟩ := exists_ofDigits? hfits
  exact ⟨withSign x.negative m, by simp [ofNumeral?, hread, hexponent]⟩

theorem exists_magnitude_of_exponent (hexponent : x.exponent = none)
    (hdigits : ∀ c ∈ x.fraction, isDigit c = true) (h : ofNumeral? x = some d) :
    ∃ y, d = withSign x.negative y ∧ x.magnitude < limit ∧ y.value = rounded x.magnitude := by
  obtain ⟨m, y, hread, hy, rfl⟩ := ofNumeral?_eq_some_iff.mp h
  rw [magnitude_eq_valueOf, hexponent, Option.getD_none, zpow_zero, mul_one]
  rw [hexponent, Option.getD_none, shift?_zero] at hy
  cases hy
  obtain ⟨hlt, -, hvalue⟩ := ofDigits?_value hdigits hread
  exact ⟨m, rfl, hlt, hvalue⟩

/-- A numeral that is read as a decimal is read as its value rounded, unless a power of ten moves the
point after digits were dropped. -/
theorem ofNumeral?_value (hrounded : x.IsRounded) (hdigits : ∀ c ∈ x.fraction, isDigit c = true)
    (h : ofNumeral? x = some d) : |x.value| < limit ∧ d.value = nearby x.value := by
  obtain ⟨y, rfl, hlt, hvalue⟩ : ∃ y, d = withSign x.negative y ∧ x.magnitude < limit ∧
      y.value = rounded x.magnitude := by
    rcases hrounded with hfits | hexponent
    · obtain ⟨y, hd, hin, hvalue⟩ := exists_magnitude_of_fits hfits hdigits h
      rw [← hvalue, rounded_of_inRange hin]
      exact ⟨y, hd, hin.value_lt, rfl⟩
    · exact exists_magnitude_of_exponent hexponent hdigits h
  rw [value_withSign, hvalue, x.abs_value]
  exact ⟨hlt, (nearby_signed _ x.magnitude_nonneg).symm⟩

/-- The digits of a numeral that is read as a decimal stay below the limit, and its power of ten adds
at most as many zeros as there are places. -/
theorem abs_value_lt_of_ofNumeral? (hdigits : ∀ c ∈ x.fraction, isDigit c = true)
    (h : ofNumeral? x = some d) : |x.value| < limit * 10 ^ maxScale := by
  obtain ⟨m, y, hread, hy, -⟩ := ofNumeral?_eq_some_iff.mp h
  obtain ⟨hlt, hin, -⟩ := ofDigits?_value hdigits hread
  obtain ⟨hnonneg, -, -⟩ := valueOf_bounds hdigits (digitsValue x.whole) 0
  have hpower : (10 : ℚ) ^ x.exponent.getD 0 ≤ 10 ^ maxScale := by
    rw [← zpow_natCast]
    exact zpow_le_zpow_right₀ (by norm_num) (power_le_of_shift? hin hy)
  rw [x.abs_value, magnitude_eq_valueOf]
  calc valueOf (digitsValue x.whole) 0 x.fraction * 10 ^ x.exponent.getD 0
      ≤ valueOf (digitsValue x.whole) 0 x.fraction * 10 ^ maxScale := by gcongr
    _ < limit * 10 ^ maxScale := by gcongr

end Decimal

end PipeQuery
