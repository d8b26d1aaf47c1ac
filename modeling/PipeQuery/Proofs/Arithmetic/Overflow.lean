import PipeQuery.Proofs.Arithmetic.NearestBinary

/-! Overflow. A magnitude is rounded to a finite binary number if it is less than half a unit of the
last place beyond the largest of them. That half itself is rounded up, since the largest mantissa is
odd. -/

namespace PipeQuery.Binary64

/-! ### Mantissas -/

/-- A number halfway beyond an odd one is rounded up. -/
theorem IsNearestWhole.le_iff_of_odd {q : ℚ} {m n : Nat} (h : IsNearestWhole q m) (hn : Odd n) :
    m ≤ n ↔ q < n + 1 / 2 := by
  obtain ⟨hlow, hhigh⟩ := abs_le.mp h.1
  constructor
  · intro hmn
    have hcast : (m : ℚ) ≤ n := by exact_mod_cast hmn
    by_contra hge
    have hhalf : q - m = 1 / 2 := by linarith
    have heq : m = n := by
      have : (m : ℚ) = n := by linarith
      exact_mod_cast this
    exact Nat.not_even_iff_odd.mpr hn (heq ▸ h.2 (by rw [hhalf]; norm_num))
  · intro hlt
    by_contra hmn
    have hcast : (n : ℚ) + 1 ≤ m := by exact_mod_cast Nat.lt_of_not_le hmn
    linarith

/-! ### Quotients -/

/-- The least magnitude that is rounded to infinity. -/
def overflow : ℚ := 2 ^ 1024 - 2 ^ 970

theorem overflow_eq : overflow = ((2 ^ 53 - 1 : Nat) + 1 / 2) * 2 ^ (971 : Int) := by
  decide +kernel

theorem pow_lt_overflow : (2 : ℚ) ^ (1023 : Int) < overflow := by decide +kernel

theorem overflow_lt_pow : overflow < 2 ^ (1024 : Int) := by decide +kernel

theorem overflow_pos : 0 < overflow :=
  (by positivity : (0 : ℚ) < 2 ^ (1023 : Int)).trans pow_lt_overflow

section

variable {q : ℚ} {e : Int} {r : Nat}

/-- A number overflows at the exponents beyond the largest one, and at the largest one if its
mantissa is carried. -/
theorem FitsExponent.lt_overflow_iff (hfit : FitsExponent q e) (hr : IsNearestWhole (q / 2 ^ e) r) :
    q < overflow ↔ e < 971 ∨ e = 971 ∧ r ≤ 2 ^ 53 - 1 := by
  rcases lt_trichotomy e 971 with hlt | rfl | hgt
  · refine iff_of_true (hfit.2.1.trans_le (le_trans ?_ pow_lt_overflow.le)) (.inl hlt)
    rw [← zpow_natCast, ← zpow_add₀ (by norm_num)]
    exact zpow_le_zpow_right₀ (by norm_num) (by omega)
  · rw [hr.le_iff_of_odd (by decide), div_lt_iff₀ (by positivity), ← overflow_eq]
    simp
  · refine iff_of_false (not_lt.mpr (overflow_lt_pow.le.trans ?_)) (by omega)
    refine le_trans ?_ (hfit.2.2.resolve_left (by omega))
    rw [← zpow_natCast, ← zpow_add₀ (by norm_num)]
    exact zpow_le_zpow_right₀ (by norm_num) (by omega)

end

variable {negative : Bool} {num den : Nat}

theorem ofRounded_isFinite_iff {m : Nat} {e : Int} :
    (ofRounded negative m e).isFinite = true ↔ Canonical m e := by
  unfold ofRounded
  split_ifs with hc
  · exact iff_of_true rfl hc
  · exact iff_of_false Bool.false_ne_true hc

theorem ofReduced_isFinite_iff (hnum : 0 < num) (hden : 0 < den) :
    (ofReduced negative num den).isFinite = true ↔ (num / den : ℚ) < overflow := by
  obtain ⟨e, r, hfit, hr, heq⟩ := exists_ofReduced_eq hnum hden negative
  rw [heq, hfit.lt_overflow_iff hr]
  have hmin := hfit.1
  have hle := hfit.mantissa_le hr
  have hge : e = -1074 ∨ 2 ^ 52 ≤ r := hfit.2.2.imp_right hr.le_mantissa
  split_ifs with hcarry <;> rw [ofRounded_isFinite_iff, Canonical] <;> omega

theorem ofRatio_isFinite_iff (hden : 0 < den) :
    (ofRatio negative num den).isFinite = true ↔ (num / den : ℚ) < overflow := by
  rcases Nat.eq_zero_or_pos num with rfl | hnum
  · refine iff_of_true rfl ?_
    rw [Nat.cast_zero, zero_div]
    exact overflow_pos
  · obtain ⟨hnum', hden', hquotient⟩ := lowest_terms hnum hden
    rw [ofRatio, if_neg hnum.ne', ofReduced_isFinite_iff hnum' hden', hquotient]

/-! ### Numerals -/

theorem overflow_le_scaled {digits : Nat} {exponent : Int} (hdigits : digits ≠ 0)
    (h : 400 < exponent) : overflow ≤ digits * 10 ^ exponent := by
  have hone : (1 : ℚ) ≤ digits := by exact_mod_cast Nat.one_le_iff_ne_zero.mpr hdigits
  calc overflow ≤ 2 ^ (1024 : Int) := overflow_lt_pow.le
    _ ≤ 10 ^ (400 : Int) := by decide +kernel
    _ ≤ 10 ^ exponent := zpow_le_zpow_right₀ (by norm_num) h.le
    _ ≤ digits * 10 ^ exponent := le_mul_of_one_le_left (by positivity) hone

theorem ofScaled_isFinite_iff {digits : Nat} {exponent : Int} :
    (ofScaled negative digits exponent).isFinite = true ↔
      (digits * 10 ^ exponent : ℚ) < overflow := by
  unfold ofScaled
  split_ifs with hzero hlarge hsmall
  · refine iff_of_true rfl ?_
    rw [hzero, Nat.cast_zero, zero_mul]
    exact overflow_pos
  · exact iff_of_false Bool.false_ne_true (not_lt.mpr (overflow_le_scaled hzero hlarge))
  · have hpow : (2 : ℚ) ^ (-1200 : Int) ≤ 2 ^ (1023 : Int) :=
      zpow_le_zpow_right₀ (by norm_num) (by norm_num)
    exact iff_of_true rfl ((scaled_lt hsmall).trans_le (hpow.trans pow_lt_overflow.le))
  · have hden : 0 < Nat.pow 10 (-exponent).toNat := Nat.pow_pos (by decide)
    rw [ofRatio_isFinite_iff hden, scaled_div]

/-- A numeral is read as a finite binary number if its value is less than half a unit beyond the
largest of them. -/
theorem toBinary64_isFinite_iff (x : Numeral) :
    x.toBinary64.isFinite = true ↔ |x.value| < overflow := by
  rw [x.abs_value, magnitude_eq_scaled]
  exact ofScaled_isFinite_iff

end PipeQuery.Binary64
