import PipeQuery.Proofs.Arithmetic.Decimals
import PipeQuery.Proofs.Arithmetic.NearestBinary

/-! The conversion of decimals to binary numbers. It rounds several times, but the errors are too
small to move a short decimal: one with a coefficient of at most 50 bits and at most 22 places is
converted to the nearest binary number, and so is every whole decimal. -/

namespace PipeQuery

namespace Binary64

/-! ### One rounding -/

section

variable {q : ℚ} {e : Int} {r : Nat}

theorem FitsExponent.le_of_lt {k : Int} (h : FitsExponent q e) (hmin : -1021 ≤ k)
    (hlt : q < 2 ^ k) : e ≤ k - 53 := by
  by_contra hgt
  have hpow : (2 : ℚ) ^ k ≤ 2 ^ 52 * 2 ^ e := by
    rw [← zpow_natCast, ← zpow_add₀ (by norm_num)]
    exact zpow_le_zpow_right₀ (by norm_num) (by omega)
  have hlow := h.2.2.resolve_left (by omega)
  linarith

/-- The error is at most half a unit in the last of 53 bits. -/
theorem FitsExponent.abs_sub_le (hfit : FitsExponent q e) (hr : IsNearestWhole (q / 2 ^ e) r)
    (hq : 2 ^ (-1022 : Int) ≤ q) : |r * 2 ^ e - q| ≤ q / 2 ^ 53 := by
  have hpos : (0 : ℚ) < 2 ^ e := by positivity
  have hunit : 2 ^ 52 * (2 : ℚ) ^ e ≤ q := by
    rcases hfit.2.2 with rfl | hlow
    · refine le_trans (le_of_eq ?_) hq
      rw [← zpow_natCast, ← zpow_add₀ (by norm_num)]
      norm_num
    · exact hlow
  have hhalf : |q - r * 2 ^ e| ≤ 1 / 2 * 2 ^ e := by
    have hscaled : q - r * 2 ^ e = (q / 2 ^ e - r) * 2 ^ e := by field_simp
    rw [hscaled, abs_mul, abs_of_pos hpos]
    exact mul_le_mul_of_nonneg_right hr.1 hpos.le
  rw [abs_sub_comm]
  linarith

/-- If `q` is whole and only 53 bits of it count, there is no error. -/
theorem FitsExponent.mul_eq (hfit : FitsExponent q e) (hr : IsNearestWhole (q / 2 ^ e) r)
    {n k : Nat} (hn : n < 2 ^ 53) (hq : q = n * 2 ^ k) : r * 2 ^ e = q := by
  have hpos : (0 : ℚ) < 2 ^ e := by positivity
  have hle : e ≤ k := by
    rcases hfit.2.2 with rfl | hlow
    · omega
    · by_contra hgt
      have hpow : (2 : ℚ) ^ (k + 1) ≤ 2 ^ e := by
        rw [← zpow_natCast]
        exact zpow_le_zpow_right₀ (by norm_num) (by push_cast; omega)
      have hn' : (n : ℚ) < 2 ^ 53 := by exact_mod_cast hn
      have hlt : q < 2 ^ 53 * 2 ^ k := by
        rw [hq]
        gcongr
      rw [pow_succ] at hpow
      linarith
  have hwhole : q / 2 ^ e = (n * 2 ^ (k - e).toNat : Nat) := by
    rw [hq, div_eq_iff hpos.ne']
    push_cast
    rw [mul_assoc, ← zpow_natCast, ← zpow_natCast, ← zpow_add₀ (by norm_num),
      Int.toNat_of_nonneg (by omega)]
    congr 2
    omega
  rw [hwhole] at hr
  rw [(hr.le_of_le le_rfl).antisymm (hr.le_of_ge le_rfl), ← hwhole, div_mul_cancel₀ _ hpos.ne']

end

/-! ### Values of quotients -/

/-- The fraction that a finite number stands for, without its sign. -/
def absValue : Binary64 → ℚ
  | .finite _ m e _ => m * 2 ^ e
  | _ => 0

/-- The number is finite, has the sign, and differs from `q` by a small part of `q` at most. -/
def IsClose (x : Binary64) (negative : Bool) (q : ℚ) : Prop :=
  x.isFinite = true ∧ x.isNegative = negative ∧ |x.absValue - q| ≤ q / 2 ^ 53

/-- The number is finite, has the sign, and stands for `q`. -/
def IsExactly (x : Binary64) (negative : Bool) (q : ℚ) : Prop :=
  x.isFinite = true ∧ x.isNegative = negative ∧ x.absValue = q

variable {negative : Bool} {num den : Nat}

/-- A mantissa that is carried to the next exponent keeps its value. -/
theorem exists_ofReduced (hnum : 0 < num) (hden : 0 < den)
    (hlt : (num / den : ℚ) < 2 ^ (1000 : Int)) (negative : Bool) :
    ∃ e r, FitsExponent (num / den) e ∧ IsNearestWhole (num / den / 2 ^ e) r ∧
      (ofReduced negative num den).IsExactly negative (r * 2 ^ e) := by
  obtain ⟨e, r, hfit, hr, heq⟩ := exists_ofReduced_eq hnum hden negative
  refine ⟨e, r, hfit, hr, ?_⟩
  rw [heq]
  have hmin := hfit.1
  have hmax := hfit.le_of_lt (by norm_num) hlt
  have hle := hfit.mantissa_le hr
  have hge : e = -1074 ∨ 2 ^ 52 ≤ r := hfit.2.2.imp_right hr.le_mantissa
  split_ifs with hcarry
  · have hc : Canonical 0x10000000000000 (e + 1) := ⟨by decide, by omega, by omega, .inl le_rfl⟩
    rw [ofRounded, dif_pos hc]
    refine ⟨rfl, rfl, ?_⟩
    rw [absValue, hcarry, zpow_add_one₀ (by norm_num)]
    norm_num
    ring
  · have hc : Canonical r e := ⟨by omega, hmin, by omega, by omega⟩
    rw [ofRounded, dif_pos hc]
    exact ⟨rfl, rfl, rfl⟩

theorem exists_ofRatio (hnum : 0 < num) (hden : 0 < den)
    (hlt : (num / den : ℚ) < 2 ^ (1000 : Int)) (negative : Bool) :
    ∃ e r, FitsExponent (num / den) e ∧ IsNearestWhole (num / den / 2 ^ e) r ∧
      (ofRatio negative num den).IsExactly negative (r * 2 ^ e) := by
  obtain ⟨hnum', hden', hquotient⟩ := lowest_terms hnum hden
  rw [ofRatio, if_neg hnum.ne', ← hquotient]
  rw [← hquotient] at hlt
  exact exists_ofReduced hnum' hden' hlt negative

theorem ofRatio_isFinite (hden : 0 < den) (hlt : (num / den : ℚ) < 2 ^ (1000 : Int)) :
    (ofRatio negative num den).isFinite = true := by
  rcases Nat.eq_zero_or_pos num with rfl | hnum
  · rfl
  · obtain ⟨-, -, -, -, hfinite, -⟩ := exists_ofRatio hnum hden hlt negative
    exact hfinite

/-- The number is `q` with the sign, rounded once. -/
def Rounds (x : Binary64) (negative : Bool) (q : ℚ) : Prop :=
  ∃ num den, 0 < den ∧ x = ofRatio negative num den ∧ (num / den : ℚ) = q

/-- The fraction is neither very small nor very large. -/
def IsModerate (q : ℚ) : Prop := 1 / 2 ^ 200 ≤ q ∧ q ≤ 2 ^ 200

theorem lt_of_le_pow {q : ℚ} (h : q ≤ 2 ^ 200) : q < 2 ^ (1000 : Int) := by
  refine h.trans_lt ?_
  rw [← zpow_natCast]
  exact zpow_lt_zpow_right₀ (by norm_num) (by norm_num)

section

variable {x : Binary64} {q : ℚ}

theorem Rounds.isClose (h : x.Rounds negative q) (hq : IsModerate q) : x.IsClose negative q := by
  obtain ⟨num, den, hden, rfl, rfl⟩ := h
  obtain ⟨hlow, hhigh⟩ := hq
  have hnum : 0 < num := by
    refine Nat.pos_of_ne_zero fun h => ?_
    rw [h, Nat.cast_zero, zero_div] at hlow
    exact absurd hlow (by norm_num)
  have hnormal : (2 : ℚ) ^ (-1022 : Int) ≤ num / den := by
    refine le_trans ?_ hlow
    rw [one_div, ← zpow_natCast, ← zpow_neg]
    exact zpow_le_zpow_right₀ (by norm_num) (by norm_num)
  obtain ⟨e, r, hfit, hr, hfinite, hsign, hvalue⟩ :=
    exists_ofRatio hnum hden (lt_of_le_pow hhigh) negative
  refine ⟨hfinite, hsign, ?_⟩
  rw [hvalue]
  exact hfit.abs_sub_le hr hnormal

theorem Rounds.isNearestTo (h : x.Rounds negative q) (hq : q ≤ 2 ^ 200) :
    x.IsNearestTo (if negative then -q else q) := by
  obtain ⟨num, den, hden, rfl, rfl⟩ := h
  exact ofRatio_isNearestTo hden (ofRatio_isFinite hden (lt_of_le_pow hq))

theorem Rounds.eq_zero (h : x.Rounds negative 0) : x = zero negative := by
  obtain ⟨num, den, hden, rfl, hvalue⟩ := h
  have hnum : num = 0 := by
    have := (div_eq_zero_iff.mp hvalue).resolve_right (by exact_mod_cast hden.ne')
    exact_mod_cast this
  rw [hnum]
  rfl

theorem Rounds.neg (h : x.Rounds false q) : x.neg.Rounds true q := by
  obtain ⟨num, den, hden, rfl, hvalue⟩ := h
  exact ⟨num, den, hden, ofRatio_neg num den, hvalue⟩

end

theorem ofNat_rounds (n : Nat) : (ofNat n).Rounds false n :=
  ⟨n, 1, Nat.one_pos, rfl, by simp⟩

/-- A whole number with at most 53 bits that count is not rounded. -/
theorem ofNat_isExactly {n m k : Nat} (hm : m < 2 ^ 53) (hn : n = m * 2 ^ k) (hle : n ≤ 2 ^ 200) :
    (ofNat n).IsExactly false n := by
  rcases Nat.eq_zero_or_pos n with rfl | hpos
  · exact ⟨rfl, rfl, by simp [ofNat, ofRatio, zero, absValue]⟩
  · have hone : (n : ℚ) / (1 : Nat) = n := by simp
    have hlt : (n : ℚ) / (1 : Nat) < 2 ^ (1000 : Int) := by
      rw [hone]
      exact lt_of_le_pow (by exact_mod_cast hle)
    obtain ⟨e, r, hfit, hr, hexact⟩ := exists_ofRatio hpos Nat.one_pos hlt false
    rw [hone] at hfit hr
    rwa [hfit.mul_eq hr hm (k := k) (by exact_mod_cast hn)] at hexact

/-! ### Operations -/

variable {x y : Binary64}

theorem exists_eq_finite (hx : x.isFinite = true) : ∃ s m e hc, x = finite s m e hc := by
  cases x with
  | nan => cases hx
  | infinity s => cases hx
  | finite s m e hc => exact ⟨s, m, e, hc, rfl⟩

theorem isZero_iff (hx : x.isFinite = true) : x.isZero = true ↔ x.absValue = 0 := by
  obtain ⟨s, m, e, hc, rfl⟩ := exists_eq_finite hx
  simp [isZero, absValue, zpow_ne_zero]

theorem magnitude_pos (m : Nat) (e : Int) : 0 < (magnitude m e).2 := Nat.pow_pos (by decide)

theorem magnitude_div (m : Nat) (e : Int) :
    ((magnitude m e).1 : ℚ) / (magnitude m e).2 = m * 2 ^ e := by
  show ((m * 2 ^ e.toNat : Nat) : ℚ) / (2 ^ (-e).toNat : Nat) = m * 2 ^ e
  obtain ⟨k, rfl | rfl⟩ := e.eq_nat_or_neg
  · simp
  · simp [div_eq_mul_inv]

theorem mul_rounds (hx : x.isFinite = true) (hy : y.isFinite = true) :
    (x.mul y).Rounds (x.isNegative != y.isNegative) (x.absValue * y.absValue) := by
  obtain ⟨s, m, e, hc, rfl⟩ := exists_eq_finite hx
  obtain ⟨t, n, f, hc', rfl⟩ := exists_eq_finite hy
  refine ⟨(magnitude m e).1 * (magnitude n f).1, (magnitude m e).2 * (magnitude n f).2,
    Nat.mul_pos (magnitude_pos m e) (magnitude_pos n f), rfl, ?_⟩
  rw [absValue, absValue, ← magnitude_div, ← magnitude_div]
  push_cast
  exact mul_div_mul_comm _ _ _ _

theorem div_rounds (hx : x.isFinite = true) (hy : y.isFinite = true) (hy0 : y.absValue ≠ 0) :
    (x.div y).Rounds (x.isNegative != y.isNegative) (x.absValue / y.absValue) := by
  obtain ⟨s, m, e, hc, rfl⟩ := exists_eq_finite hx
  obtain ⟨t, n, f, hc', rfl⟩ := exists_eq_finite hy
  have hn : n ≠ 0 := by
    rintro rfl
    exact hy0 (by simp [absValue])
  have hpos : 0 < (magnitude n f).1 := Nat.mul_pos (Nat.pos_of_ne_zero hn) (Nat.pow_pos (by decide))
  refine ⟨(magnitude m e).1 * (magnitude n f).2, (magnitude m e).2 * (magnitude n f).1,
    Nat.mul_pos (magnitude_pos m e) hpos, if_neg hn, ?_⟩
  rw [absValue, absValue, ← magnitude_div, ← magnitude_div]
  push_cast
  exact (div_div_div_eq _ _ _ _).symm

theorem addMagnitude_rounds (hx : x.isFinite = true) (hy : y.isFinite = true) :
    (x.addMagnitude y).Rounds x.isNegative (x.absValue + y.absValue) := by
  obtain ⟨s, m, e, hc, rfl⟩ := exists_eq_finite hx
  obtain ⟨t, n, f, hc', rfl⟩ := exists_eq_finite hy
  have hd := (magnitude_pos m e).ne'
  have hd' := (magnitude_pos n f).ne'
  refine ⟨(magnitude m e).1 * (magnitude n f).2 + (magnitude n f).1 * (magnitude m e).2,
    (magnitude m e).2 * (magnitude n f).2,
    Nat.mul_pos (magnitude_pos m e) (magnitude_pos n f), rfl, ?_⟩
  rw [absValue, absValue, ← magnitude_div, ← magnitude_div,
    div_add_div _ _ (by exact_mod_cast hd) (by exact_mod_cast hd')]
  push_cast
  ring

/-- A number near a whole one is rounded to that. -/
theorem roundHalfAway_eq (hx : x.isFinite = true) {n : Nat} (hn : |x.absValue - n| < 1 / 2) :
    x.roundHalfAway = ofRatio x.isNegative n 1 := by
  obtain ⟨s, m, e, hc, rfl⟩ := exists_eq_finite hx
  obtain ⟨hlow, hhigh⟩ := abs_lt.mp hn
  rw [absValue, ← magnitude_div] at hlow hhigh
  have hpos : (0 : ℚ) < (magnitude m e).2 := by exact_mod_cast magnitude_pos m e
  have hquotient : (2 * (magnitude m e).1 + (magnitude m e).2) / (2 * (magnitude m e).2) = n := by
    have hlow' := mul_lt_mul_of_pos_right hlow hpos
    have hhigh' := mul_lt_mul_of_pos_right hhigh hpos
    rw [sub_mul, div_mul_cancel₀ _ hpos.ne'] at hlow' hhigh'
    refine Nat.div_eq_of_lt_le ?_ ?_
    · have : (n * (2 * (magnitude m e).2) : ℚ) ≤ 2 * (magnitude m e).1 + (magnitude m e).2 := by
        linarith
      exact_mod_cast this
    · have : (2 * (magnitude m e).1 + (magnitude m e).2 : ℚ) <
          (n + 1) * (2 * (magnitude m e).2) := by
        linarith
      exact_mod_cast this
  exact congrArg (ofRatio s · 1) hquotient

theorem IsClose.bounds {q : ℚ} (h : x.IsClose negative q) (hq : 0 ≤ q) :
    q / 2 ≤ x.absValue ∧ x.absValue ≤ 2 * q := by
  obtain ⟨hlow, hhigh⟩ := abs_le.mp h.2.2
  constructor <;> linarith

end Binary64

/-! ### Decimals -/

namespace Decimal

open Binary64

/-- The errors of the fraction, of the sum and of the product together are less than a half. -/
theorem abs_product_sub_lt {W R U f S P : ℚ} (hU : 0 < U) (hW : 0 ≤ W)
    (hsmall : W * U + R < 2 ^ 50) (hf : |f - R / U| ≤ R / U / 2 ^ 53)
    (hS : |S - (W + f)| ≤ (W + f) / 2 ^ 53) (hP : |P - S * U| ≤ S * U / 2 ^ 53) :
    |P - (W * U + R)| < 1 / 2 := by
  have hfU : |f * U - R| ≤ R / 2 ^ 53 := by
    have h := mul_le_mul_of_nonneg_right hf hU.le
    rw [← abs_of_pos hU, ← abs_mul, abs_of_pos hU, sub_mul, div_mul_cancel₀ _ hU.ne'] at h
    rwa [div_right_comm, div_mul_cancel₀ _ hU.ne'] at h
  have hSU : |S * U - (W * U + f * U)| ≤ (W * U + f * U) / 2 ^ 53 := by
    have h := mul_le_mul_of_nonneg_right hS hU.le
    rw [← abs_of_pos hU, ← abs_mul, abs_of_pos hU, sub_mul, add_mul] at h
    rwa [div_mul_eq_mul_div, add_mul] at h
  have hWU : 0 ≤ W * U := mul_nonneg hW hU.le
  rw [abs_le] at hfU hSU hP
  rw [abs_lt]
  constructor <;> linarith

variable {n s : Nat}

theorem ofNat_small (hn : n < 2 ^ 53) : (ofNat n).IsExactly false n :=
  ofNat_isExactly (k := 0) hn (by simp) (hn.le.trans (by norm_num))

theorem ofNat_unit (hs : s ≤ 22) : (ofNat (10 ^ s)).IsExactly false (10 ^ s : Nat) := by
  refine ofNat_isExactly (m := 5 ^ s) (k := s) ?_ (by rw [← Nat.mul_pow]) ?_
  · exact (Nat.pow_le_pow_right (by decide) hs).trans_lt (by norm_num)
  · exact (Nat.pow_le_pow_right (by decide) hs).trans (by norm_num)

/-- A quotient of two whole numbers that are not rounded is rounded once. -/
theorem div_unit_rounds (hn : n < 2 ^ 53) (hs : s ≤ 22) :
    ((ofNat n).div (ofNat (10 ^ s))).Rounds false (n / (10 ^ s : Nat)) := by
  obtain ⟨hnfin, hnneg, hnvalue⟩ := ofNat_small hn
  obtain ⟨hufin, huneg, hu⟩ := ofNat_unit hs
  have hrounds := div_rounds hnfin hufin (by rw [hu]; positivity)
  rwa [hnneg, huneg, hnvalue, hu] at hrounds

theorem one_le_unit (s : Nat) : (1 : ℚ) ≤ (10 ^ s : Nat) := by
  exact_mod_cast Nat.one_le_pow _ _ (by decide)

theorem unit_le (hs : s ≤ 22) : ((10 ^ s : Nat) : ℚ) ≤ 10 ^ 22 := by
  exact_mod_cast Nat.pow_le_pow_right (by decide) hs

theorem quotient_range (hn : n < 2 ^ 50) (hs : s ≤ 22) (hpos : n ≠ 0) :
    1 / 10 ^ 22 ≤ (n / (10 ^ s : Nat) : ℚ) ∧ (n / (10 ^ s : Nat) : ℚ) ≤ 2 ^ 50 := by
  have hone : (1 : ℚ) ≤ n := by exact_mod_cast Nat.one_le_iff_ne_zero.mpr hpos
  have hlt : (n : ℚ) < 2 ^ 50 := by exact_mod_cast hn
  have hunit := one_le_unit s
  constructor
  · exact div_le_div₀ (by linarith) hone (by linarith) (unit_le hs)
  · exact (div_le_self (by linarith) hunit).trans hlt.le

theorem quotient_isClose (hn : n < 2 ^ 50) (hs : s ≤ 22) (hpos : n ≠ 0) :
    ((ofNat n).div (ofNat (10 ^ s))).IsClose false (n / (10 ^ s : Nat)) := by
  obtain ⟨hlow, hhigh⟩ := quotient_range hn hs hpos
  exact (div_unit_rounds (hn.trans (by norm_num)) hs).isClose
    ⟨le_trans (by norm_num) hlow, hhigh.trans (by norm_num)⟩

theorem quotient_isZero_iff (hn : n < 2 ^ 50) (hs : s ≤ 22) :
    ((ofNat n).div (ofNat (10 ^ s))).isZero = true ↔ n = 0 := by
  refine ⟨fun hzero => ?_, ?_⟩
  · by_contra hpos
    have hclose := quotient_isClose hn hs hpos
    have hlow := (quotient_range hn hs hpos).1
    have hvalue := hclose.bounds (le_trans (by norm_num) hlow)
    rw [(isZero_iff hclose.1).mp hzero] at hvalue
    linarith
  · rintro rfl
    have hrounds := div_unit_rounds (n := 0) (by norm_num) hs
    rw [Nat.cast_zero, zero_div] at hrounds
    rw [hrounds.eq_zero]
    rfl

/-- The product that is rounded to a whole number is rounded to the coefficient. -/
theorem roundHalfAway_product (hn : n < 2 ^ 50) (hs : s ≤ 22) (hrest : n % 10 ^ s ≠ 0) :
    (((ofNat (n / 10 ^ s)).addMagnitude ((ofNat (n % 10 ^ s)).div (ofNat (10 ^ s)))).mul
      (ofNat (10 ^ s))).roundHalfAway = ofNat n := by
  have hmod : n % 10 ^ s < 2 ^ 50 := (Nat.mod_le n (10 ^ s)).trans_lt hn
  obtain ⟨hufin, huneg, hu⟩ := ofNat_unit hs
  obtain ⟨hwfin, hwneg, hw⟩ :=
    ofNat_small ((Nat.div_le_self n (10 ^ s)).trans_lt (hn.trans (by norm_num)))
  have hquotient := quotient_range hmod hs hrest
  have hfraction := quotient_isClose hmod hs hrest
  have hU1 := one_le_unit s
  have hU2 := unit_le hs
  have hW0 : (0 : ℚ) ≤ (n / 10 ^ s : Nat) := by positivity
  have hR0 : (0 : ℚ) ≤ (n % 10 ^ s : Nat) := by positivity
  have hsum : ((n / 10 ^ s : Nat) : ℚ) * (10 ^ s : Nat) + (n % 10 ^ s : Nat) = n := by
    exact_mod_cast Nat.div_add_mod' n (10 ^ s)
  have hlt : (n : ℚ) < 2 ^ 50 := by exact_mod_cast hn
  -- Only the sizes of the whole part, the digits behind the point and the unit matter from here.
  generalize ((n / 10 ^ s : Nat) : ℚ) = W at *
  generalize ((n % 10 ^ s : Nat) : ℚ) = R at *
  generalize ((10 ^ s : Nat) : ℚ) = U at *
  have hWU : W ≤ W * U := le_mul_of_one_le_right hW0 hU1
  have hf := hfraction.bounds (le_trans (by norm_num) hquotient.1)
  have htotal := (addMagnitude_rounds hwfin hfraction.1).isClose (by
    rw [hw]
    constructor <;> norm_num at hf hquotient ⊢ <;> linarith)
  rw [hw] at htotal
  have hS := htotal.bounds (by linarith)
  have hproduct := (mul_rounds htotal.1 hufin).isClose (by
    rw [hu]
    have hS0 : 0 ≤ Binary64.absValue _ := le_trans (by linarith) hS.1
    have hSlow := le_mul_of_one_le_right hS0 hU1
    have hShigh := mul_le_mul_of_nonneg_left hU2 hS0
    constructor <;> norm_num at hf hS hquotient hShigh ⊢ <;> linarith)
  rw [hu] at hproduct
  have hnear : |(((ofNat (n / 10 ^ s)).addMagnitude
      ((ofNat (n % 10 ^ s)).div (ofNat (10 ^ s)))).mul (ofNat (10 ^ s))).absValue - n| < 1 / 2 := by
    rw [← hsum] at hlt ⊢
    exact abs_product_sub_lt (by linarith) hW0 hlt hfraction.2.2 htotal.2.2 hproduct.2.2
  rw [roundHalfAway_eq hproduct.1 hnear, hproduct.2.1, htotal.2.1, hwneg, huneg]
  rfl

/-- The conversion of a decimal without its sign. -/
def Magnitude.toBinary64 (x : Magnitude) : Binary64 :=
  let unit := ofNat (10 ^ x.scale)
  let whole := ofNat (x.coefficient / 10 ^ x.scale)
  let fraction := (ofNat (x.coefficient % 10 ^ x.scale)).div unit
  if x.scale = 0 then ofNat x.coefficient
  else if fraction.isZero then whole
  else ((whole.addMagnitude fraction).mul unit).roundHalfAway.div unit

theorem toBinary64_eq (x : Decimal) :
    x.toBinary64 =
      if x.coefficient < 0 then (Magnitude.toBinary64 ⟨x.coefficient.natAbs, x.scale⟩).neg
      else Magnitude.toBinary64 ⟨x.coefficient.natAbs, x.scale⟩ := by
  unfold toBinary64 Magnitude.toBinary64
  simp only [Nat.pow_eq]
  split_ifs <;> rfl

/-- A whole number, or one with few enough digits. -/
def Magnitude.IsShort (x : Magnitude) : Prop :=
  x.scale = 0 ∧ x.coefficient < limit ∨ x.coefficient < 2 ^ 50 ∧ x.scale ≤ 22

/-- All but the last operation of the conversion are exact on short decimals. -/
theorem Magnitude.IsShort.toBinary64_rounds {x : Magnitude} (h : x.IsShort) :
    x.toBinary64.Rounds false x.value := by
  obtain ⟨n, s⟩ := x
  unfold Magnitude.toBinary64 Magnitude.value
  dsimp only
  by_cases hscale : s = 0
  · rw [if_pos hscale, hscale, pow_zero, div_one]
    exact ofNat_rounds n
  · rw [if_neg hscale]
    obtain ⟨hn, hs⟩ := h.resolve_left fun h => hscale h.1
    dsimp only at hn hs
    have hzero := quotient_isZero_iff ((Nat.mod_le n (10 ^ s)).trans_lt hn) hs
    by_cases hrest : n % 10 ^ s = 0
    · -- Nothing behind the point is left, so the whole part is all there is.
      have hvalue : ((n / 10 ^ s : Nat) : ℚ) = n / 10 ^ s := by
        rw [Nat.cast_div (Nat.dvd_of_mod_eq_zero hrest) (by positivity), Nat.cast_pow,
          Nat.cast_ofNat]
      rw [if_pos (hzero.mpr hrest), ← hvalue]
      exact ofNat_rounds _
    · have hrounds := div_unit_rounds (hn.trans (by norm_num)) hs
      rw [Nat.cast_pow, Nat.cast_ofNat] at hrounds
      rwa [if_neg (hrest ∘ hzero.mp), roundHalfAway_product hn hs hrest]

theorem Magnitude.IsShort.value_le {x : Magnitude} (h : x.IsShort) : x.value ≤ 2 ^ 200 := by
  refine (div_le_self (by positivity) (one_le_pow₀ (by norm_num))).trans ?_
  rcases h with ⟨-, hlt⟩ | ⟨hlt, -⟩
  · exact_mod_cast hlt.le.trans (by decide)
  · exact_mod_cast hlt.le.trans (by norm_num)

/-- Short decimals are converted to the nearest binary numbers. -/
theorem toBinary64_isNearestTo {x : Decimal}
    (h : Magnitude.IsShort ⟨x.coefficient.natAbs, x.scale⟩) : x.toBinary64.IsNearestTo x.value := by
  have hrounds := h.toBinary64_rounds
  have hx : withSign (x.coefficient < 0) ⟨x.coefficient.natAbs, x.scale⟩ = x := by
    unfold withSign
    congr 1
    simp only [decide_eq_true_eq]
    split_ifs <;> omega
  rw [← congrArg value hx, value_withSign, toBinary64_eq]
  by_cases hneg : x.coefficient < 0
  · rw [if_pos hneg, decide_eq_true hneg]
    exact hrounds.neg.isNearestTo h.value_le
  · rw [if_neg hneg, decide_eq_false hneg]
    exact hrounds.isNearestTo h.value_le

end Decimal

end PipeQuery
