import Mathlib.Algebra.Order.Field.Rat
import Mathlib.Data.Nat.Cast.Field
import Mathlib.Tactic.FieldSimp
import Mathlib.Tactic.Linarith
import Mathlib.Tactic.NormNum
import PipeQuery.Proofs.Arithmetic.Rounding
import PipeQuery.Proofs.Arithmetic.WrittenNumber

/-! Rounding to binary numbers keeps the order. The place of the nearest number in the order of bit
patterns is determined by the value alone and grows with it, so numerals that are read as finite
binary numbers never come out in the wrong order. -/

namespace PipeQuery.Binary64

/-! ### The nearest whole number -/

/-- `m` is the whole number nearest to `q`, the even one if there are two. -/
def IsNearestWhole (q : ℚ) (m : Nat) : Prop := |q - m| ≤ 1 / 2 ∧ (|q - m| = 1 / 2 → Even m)

theorem IsNearestWhole.mono {q r : ℚ} {m n : Nat} (hm : IsNearestWhole q m)
    (hn : IsNearestWhole r n) (hqr : q ≤ r) : m ≤ n := by
  by_contra hlt
  -- The two could only change places if both stood halfway between the same two whole numbers.
  have hcast : (n : ℚ) + 1 ≤ m := by exact_mod_cast Nat.lt_of_not_le hlt
  have hlow := (abs_le.mp hm.1).1
  have hhigh := (abs_le.mp hn.1).2
  have hq : q - m = -(1 / 2) := by linarith
  have hr : r - n = 1 / 2 := by linarith
  have hmn : m = n + 1 := by
    have : (m : ℚ) = n + 1 := by linarith
    exact_mod_cast this
  have hmeven : Even m := hm.2 (by rw [hq]; norm_num)
  have hneven : Even n := hn.2 (by rw [hr]; norm_num)
  exact Nat.even_add_one.mp (hmn ▸ hmeven) hneven

theorem isNearestWhole_self (n : Nat) : IsNearestWhole n n := by
  simp [IsNearestWhole]

theorem IsNearestWhole.le_of_le {q : ℚ} {m n : Nat} (h : IsNearestWhole q m) (hq : q ≤ n) : m ≤ n :=
  h.mono (isNearestWhole_self n) hq

theorem IsNearestWhole.le_of_ge {q : ℚ} {m n : Nat} (h : IsNearestWhole q m) (hq : n ≤ q) : n ≤ m :=
  (isNearestWhole_self n).mono h hq

theorem roundHalfEven_isNearestWhole (num : Nat) {den : Nat} (hden : 0 < den) :
    IsNearestWhole (num / den) (roundHalfEven num den) := by
  have hpos : (0 : ℚ) < den := by exact_mod_cast hden
  have hsplit : (num : ℚ) / den = (num / den : Nat) + (num % den : Nat) / den := by
    have hdiv : (num : ℚ) = den * (num / den : Nat) + (num % den : Nat) := by
      exact_mod_cast (Nat.div_add_mod num den).symm
    field_simp
    linarith
  have hnonneg : (0 : ℚ) ≤ (num % den : Nat) / den := by positivity
  have hlt : ((num % den : Nat) : ℚ) / den < 1 :=
    (div_lt_one hpos).mpr (by exact_mod_cast Nat.mod_lt num hden)
  rw [hsplit, roundHalfEven]
  generalize num / den = q at *
  generalize num % den = r at *
  split_ifs with hdown hup
  · have hhalf : (r : ℚ) / den < 1 / 2 := by
      rw [div_lt_div_iff₀ hpos (by norm_num)]
      exact_mod_cast (by omega : r * 2 < 1 * den)
    rw [IsNearestWhole, add_sub_cancel_left, abs_of_nonneg hnonneg]
    exact ⟨hhalf.le, fun h => absurd h hhalf.ne⟩
  · have hhalf : 1 / 2 < (r : ℚ) / den := by
      rw [div_lt_div_iff₀ (by norm_num) hpos]
      exact_mod_cast (by omega : 1 * den < r * 2)
    have hdist : |(q : ℚ) + r / den - (q + 1 : Nat)| = 1 - r / den := by
      rw [abs_of_nonpos (by push_cast; linarith)]
      push_cast
      ring
    rw [IsNearestWhole, hdist]
    exact ⟨by linarith, fun h => absurd h (by linarith)⟩
  · have hhalf : (r : ℚ) / den = 1 / 2 := by
      rw [div_eq_div_iff hpos.ne' (by norm_num)]
      exact_mod_cast (by omega : r * 2 = 1 * den)
    have hparity := Nat.mod_two_eq_zero_or_one q
    rw [IsNearestWhole, hhalf]
    rcases hparity with heven | hodd
    · rw [heven]
      exact ⟨by norm_num, fun _ => Nat.even_iff.mpr heven⟩
    · rw [hodd]
      refine ⟨?_, fun _ => (Nat.odd_iff.mpr hodd).add_one⟩
      push_cast
      norm_num

/-! ### The exponent -/

/-- A number near `q` has the exponent `e`: `q` has 53 bits before the point if it is divided by
`2 ^ e`, or fewer at the least exponent. -/
def FitsExponent (q : ℚ) (e : Int) : Prop :=
  -1074 ≤ e ∧ q < 2 ^ 53 * 2 ^ e ∧ (e = -1074 ∨ 2 ^ 52 * 2 ^ e ≤ q)

theorem FitsExponent.mono {q r : ℚ} {e f : Int} (he : FitsExponent q e) (hf : FitsExponent r f)
    (hqr : q ≤ r) : e ≤ f := by
  by_contra hlt
  have hne : e ≠ -1074 := fun h => hlt (h ▸ hf.1)
  have hpow : (2 : ℚ) ^ (f + 1) ≤ 2 ^ e := zpow_le_zpow_right₀ (by norm_num) (by omega)
  have hlow := he.2.2.resolve_left hne
  have hhigh := hf.2.1
  rw [zpow_add_one₀ (by norm_num)] at hpow
  linarith

theorem FitsExponent.mantissa_le {q : ℚ} {e : Int} {r : Nat} (h : FitsExponent q e)
    (hr : IsNearestWhole (q / 2 ^ e) r) : r ≤ 2 ^ 53 := by
  refine hr.le_of_le ?_
  rw [div_le_iff₀ (by positivity)]
  exact_mod_cast h.2.1.le

theorem IsNearestWhole.le_mantissa {q : ℚ} {e : Int} {r : Nat}
    (hr : IsNearestWhole (q / 2 ^ e) r) (hlow : 2 ^ 52 * 2 ^ e ≤ q) : 2 ^ 52 ≤ r := by
  refine hr.le_of_ge ?_
  rw [le_div_iff₀ (by positivity)]
  exact_mod_cast hlow

theorem scaleDown_pos (num : Nat) {den : Nat} (hden : 0 < den) (e : Int) :
    0 < (scaleDown num den e).2 := by
  show 0 < den * 2 ^ e.toNat
  positivity

theorem scaleDown_div (num den : Nat) (e : Int) :
    ((scaleDown num den e).1 : ℚ) / (scaleDown num den e).2 = num / den / 2 ^ e := by
  show ((num * 2 ^ (-e).toNat : Nat) : ℚ) / (den * 2 ^ e.toNat : Nat) = num / den / 2 ^ e
  obtain ⟨k, rfl | rfl⟩ := e.eq_nat_or_neg
  · simp [div_div]
  · simp [mul_div_right_comm]

/-- The binary logarithms of numerator and denominator tell the size of a quotient up to a factor
of four. -/
theorem quotient_bounds {num den : Nat} (hnum : 0 < num) (hden : 0 < den) :
    (2 : ℚ) ^ ((num.log2 : Int) - den.log2 - 1) ≤ num / den ∧
      (num / den : ℚ) < 2 ^ ((num.log2 : Int) - den.log2 + 1) := by
  have hnumlow : (2 : ℚ) ^ num.log2 ≤ num := by exact_mod_cast Nat.log2_self_le hnum.ne'
  have hnumhigh : (num : ℚ) < 2 ^ (num.log2 + 1) := by exact_mod_cast Nat.lt_log2_self
  have hdenlow : (2 : ℚ) ^ den.log2 ≤ den := by exact_mod_cast Nat.log2_self_le hden.ne'
  have hdenhigh : (den : ℚ) < 2 ^ (den.log2 + 1) := by exact_mod_cast Nat.lt_log2_self
  have hpos : (0 : ℚ) < den := by exact_mod_cast hden
  constructor
  · calc (2 : ℚ) ^ ((num.log2 : Int) - den.log2 - 1) = 2 ^ num.log2 / 2 ^ (den.log2 + 1) := by
          rw [sub_sub, zpow_sub₀ (by norm_num), ← zpow_natCast, ← zpow_natCast]
          push_cast
          rfl
      _ ≤ num / den := by gcongr
  · calc (num / den : ℚ) < 2 ^ (num.log2 + 1) / 2 ^ den.log2 := by gcongr
      _ = 2 ^ ((num.log2 : Int) - den.log2 + 1) := by
          rw [sub_add_eq_add_sub, zpow_sub₀ (by norm_num), ← zpow_natCast, ← zpow_natCast]
          push_cast
          rfl

theorem scaleDown_lt_iff (num : Nat) {den : Nat} (hden : 0 < den) (e : Int) (k : Nat) :
    (scaleDown num den e).1 / (scaleDown num den e).2 < k ↔ (num / den : ℚ) < k * 2 ^ e := by
  have hpos : (0 : ℚ) < (scaleDown num den e).2 := by exact_mod_cast scaleDown_pos num hden e
  rw [Nat.div_lt_iff_lt_mul (scaleDown_pos num hden e), ← div_lt_iff₀ (by positivity),
    ← scaleDown_div, div_lt_iff₀ hpos]
  exact_mod_cast Iff.rfl

theorem exponentFor_fits {num den : Nat} (hnum : 0 < num) (hden : 0 < den) :
    FitsExponent (num / den) (exponentFor num den) := by
  obtain ⟨hlow, hhigh⟩ := quotient_bounds hnum hden
  rw [exponentFor]
  generalize hguess : (num.log2 : Int) - den.log2 - 53 = guess
  generalize he : (if guess < -1074 then (-1074 : Int) else guess) = e
  have hmin : -1074 ≤ e := by split_ifs at he <;> omega
  have hleast : e = -1074 ∨ 2 ^ 52 * (2 : ℚ) ^ e ≤ num / den := by
    split_ifs at he with hsmall
    · exact .inl he.symm
    · refine .inr (le_trans (le_of_eq ?_) hlow)
      rw [← he, ← zpow_natCast, ← zpow_add₀ (by norm_num)]
      congr 1
      omega
  have hmost : (num / den : ℚ) < 2 ^ 54 * 2 ^ e := by
    refine hhigh.trans_le ?_
    rw [← zpow_natCast, ← zpow_add₀ (by norm_num)]
    refine zpow_le_zpow_right₀ (by norm_num) ?_
    split_ifs at he <;> omega
  show FitsExponent (num / den)
    (if (scaleDown num den e).1 / (scaleDown num den e).2 < 0x20000000000000 then e else e + 1)
  have hsucc : (2 : ℚ) ^ (e + 1) = 2 * 2 ^ e := by rw [zpow_add_one₀ (by norm_num), mul_comm]
  split_ifs with hlt <;> rw [scaleDown_lt_iff num hden] at hlt
  · exact ⟨hmin, by norm_num at hlt ⊢; exact hlt, hleast⟩
  · refine ⟨by omega, ?_, .inr ?_⟩ <;> rw [hsucc]
    · norm_num at hmost ⊢
      linarith
    · norm_num at hlt ⊢
      linarith

/-! ### The place of a number -/

/-- The place of `m * 2 ^ e` among the magnitudes. -/
def placeOf (m : Nat) (e : Int) : Int := (e + 1074) * 2 ^ 52 + m

/-- `p` is the place of the number nearest to `q`. -/
def IsNearestPlace (q : ℚ) (p : Int) : Prop :=
  ∃ e m, FitsExponent q e ∧ IsNearestWhole (q / 2 ^ e) m ∧ p = placeOf m e

theorem IsNearestPlace.mono {q r : ℚ} {p s : Int} (hp : IsNearestPlace q p)
    (hs : IsNearestPlace r s) (hqr : q ≤ r) : p ≤ s := by
  obtain ⟨e, m, hfit, hwhole, rfl⟩ := hp
  obtain ⟨f, n, hfit', hwhole', rfl⟩ := hs
  unfold placeOf
  rcases (hfit.mono hfit' hqr).eq_or_lt with rfl | hlt
  · have hmn : m ≤ n := hwhole.mono hwhole' (by gcongr)
    omega
  · -- Even the largest mantissa at one exponent is no further than the least one at the next.
    have hm := hfit.mantissa_le hwhole
    have hmin := hfit.1
    have hn := hwhole'.le_mantissa (hfit'.2.2.resolve_left (by omega))
    omega

theorem IsNearestPlace.unique {q : ℚ} {p s : Int} (hp : IsNearestPlace q p)
    (hs : IsNearestPlace q s) : p = s :=
  (hp.mono hs le_rfl).antisymm (hs.mono hp le_rfl)

theorem isNearestPlace_zero : IsNearestPlace 0 0 :=
  ⟨-1074, 0, ⟨le_rfl, by positivity, .inl rfl⟩, ⟨by norm_num, by norm_num⟩, by norm_num [placeOf]⟩

theorem rank_finite {m : Nat} {e : Int} (h : Canonical m e) (negative : Bool) :
    (finite negative m e h).rank = if negative then -placeOf m e - 1 else placeOf m e := by
  obtain ⟨hlarge, hmin, -, hleast⟩ := h
  simp only [rank, isNegative, bits]
  generalize hplace : (if m < 0x10000000000000 then m
    else (e + 1075).toNat * 0x10000000000000 + (m - 0x10000000000000)) = p
  have hp : placeOf m e = p := by
    unfold placeOf
    split_ifs at hplace <;> omega
  rw [hp]
  cases negative with
  | false => simp only [Bool.false_eq_true, if_false, Nat.zero_add]
  | true => simp only [if_true, Nat.add_sub_cancel_left]

/-- The number is the one nearest to `v`, and has the sign of `v` unless that is zero. -/
def IsNearestTo (x : Binary64) (v : ℚ) : Prop :=
  ∃ p, IsNearestPlace |v| p ∧ x.rank = (if x.isNegative then -p - 1 else p) ∧
    (v ≠ 0 → (x.isNegative = true ↔ v < 0))

theorem isNearestTo_finite {m : Nat} {e : Int} (h : Canonical m e) {q : ℚ} (hq : 0 ≤ q)
    (hplace : IsNearestPlace q (placeOf m e)) (negative : Bool) :
    (finite negative m e h).IsNearestTo (if negative then -q else q) := by
  refine ⟨placeOf m e, ?_, rank_finite h negative, fun hne => ?_⟩
  · have habs : |if negative then -q else q| = q := by
      split_ifs
      · rw [abs_neg, abs_of_nonneg hq]
      · exact abs_of_nonneg hq
    rwa [habs]
  · cases negative with
    | false => simpa [isNegative] using hq
    | true =>
      have hpos : 0 < q := lt_of_le_of_ne hq fun h => hne (by simp [← h])
      simpa [isNegative] using hpos

theorem zero_isNearestTo (negative : Bool) : (zero negative).IsNearestTo 0 := by
  have hzero := isNearestTo_finite (by decide : Canonical 0 (-1074)) le_rfl isNearestPlace_zero
    negative
  rwa [neg_zero, ite_self] at hzero

theorem ofRounded_of_isFinite {negative : Bool} {m : Nat} {e : Int}
    (h : (ofRounded negative m e).isFinite = true) :
    ∃ hc : Canonical m e, ofRounded negative m e = .finite negative m e hc := by
  unfold ofRounded at h ⊢
  split_ifs at h ⊢ with hc
  · exact ⟨hc, rfl⟩
  · cases h

/-- A quotient is rounded to a whole mantissa at the exponent that fits it. A mantissa of 54 bits is
carried to the next exponent. -/
theorem exists_ofReduced_eq {num den : Nat} (hnum : 0 < num) (hden : 0 < den) (negative : Bool) :
    ∃ e r, FitsExponent (num / den) e ∧ IsNearestWhole (num / den / 2 ^ e) r ∧
      ofReduced negative num den =
        if r = 0x20000000000000 then ofRounded negative 0x10000000000000 (e + 1)
        else ofRounded negative r e := by
  have hwhole := roundHalfEven_isNearestWhole (scaleDown num den (exponentFor num den)).1
    (scaleDown_pos num hden (exponentFor num den))
  rw [scaleDown_div] at hwhole
  exact ⟨_, _, exponentFor_fits hnum hden, hwhole, rfl⟩

/-- A finite quotient has the place of its rounded mantissa, also if that is carried. -/
theorem exists_ofReduced_place {negative : Bool} {num den : Nat} (hnum : 0 < num) (hden : 0 < den)
    (h : (ofReduced negative num den).isFinite = true) :
    ∃ m e, ∃ hc : Canonical m e, ofReduced negative num den = .finite negative m e hc ∧
      IsNearestPlace (num / den) (placeOf m e) := by
  obtain ⟨e, r, hfit, hwhole, heq⟩ := exists_ofReduced_eq hnum hden negative
  have hplace : IsNearestPlace (num / den) (placeOf r e) := ⟨e, r, hfit, hwhole, rfl⟩
  rw [heq] at h ⊢
  split_ifs at h ⊢ with hcarry
  · obtain ⟨hc, hfinite⟩ := ofRounded_of_isFinite h
    have hcarried : placeOf 0x10000000000000 (e + 1) = placeOf r e := by
      unfold placeOf
      omega
    exact ⟨_, _, hc, hfinite, hcarried ▸ hplace⟩
  · obtain ⟨hc, hfinite⟩ := ofRounded_of_isFinite h
    exact ⟨_, _, hc, hfinite, hplace⟩

theorem ofReduced_isNearestTo {negative : Bool} {num den : Nat} (hnum : 0 < num) (hden : 0 < den)
    (h : (ofReduced negative num den).isFinite = true) :
    (ofReduced negative num den).IsNearestTo (if negative then -(num / den) else num / den) := by
  obtain ⟨m, e, hc, heq, hplace⟩ := exists_ofReduced_place hnum hden h
  rw [heq]
  exact isNearestTo_finite hc (by positivity) hplace _

theorem lowest_terms {num den : Nat} (hnum : 0 < num) (hden : 0 < den) :
    0 < num / num.gcd den ∧ 0 < den / num.gcd den ∧
      ((num / num.gcd den : Nat) : ℚ) / (den / num.gcd den : Nat) = num / den :=
  have hg : 0 < num.gcd den := Nat.gcd_pos_of_pos_right num hden
  ⟨Nat.div_pos (Nat.le_of_dvd hnum (Nat.gcd_dvd_left num den)) hg,
    Nat.div_pos (Nat.le_of_dvd hden (Nat.gcd_dvd_right num den)) hg,
    Nat.cast_div_div_div_cancel_right (Nat.gcd_dvd_right num den) (Nat.gcd_dvd_left num den)⟩

/-- A finite quotient is the number nearest to its value. -/
theorem ofRatio_isNearestTo {negative : Bool} {num den : Nat} (hden : 0 < den)
    (h : (ofRatio negative num den).isFinite = true) :
    (ofRatio negative num den).IsNearestTo (if negative then -(num / den) else num / den) := by
  rcases Nat.eq_zero_or_pos num with rfl | hnum
  · simpa [ofRatio] using zero_isNearestTo negative
  · obtain ⟨hnum', hden', hquotient⟩ := lowest_terms hnum hden
    rw [ofRatio, if_neg hnum.ne'] at h ⊢
    rw [← hquotient]
    exact ofReduced_isNearestTo hnum' hden' h

/-! ### Numerals -/

/-- Below half of the least positive number all is rounded to zero. -/
theorem isNearestPlace_of_lt {q : ℚ} (hq : 0 ≤ q) (hlt : q < 2 ^ (-1200 : Int)) :
    IsNearestPlace q 0 := by
  have hhalf : q < 1 / 2 * 2 ^ (-1074 : Int) := by
    refine hlt.trans_le ?_
    rw [one_div, ← zpow_neg_one, ← zpow_add₀ (by norm_num)]
    exact zpow_le_zpow_right₀ (by norm_num) (by norm_num)
  have hpos : (0 : ℚ) < 2 ^ (-1074 : Int) := by positivity
  have hdist : |q / 2 ^ (-1074 : Int) - (0 : Nat)| < 1 / 2 := by
    rw [Nat.cast_zero, sub_zero, abs_of_nonneg (by positivity)]
    exact (div_lt_iff₀ hpos).mpr hhalf
  refine ⟨-1074, 0, ⟨le_rfl, ?_, .inl rfl⟩, ⟨hdist.le, fun h => absurd h hdist.ne⟩, by decide⟩
  linarith

theorem scaled_lt {digits : Nat} {exponent : Int}
    (h : (digits.log2 : Int) + 1 + 3 * exponent < -1200) :
    (digits * 10 ^ exponent : ℚ) < 2 ^ (-1200 : Int) := by
  obtain ⟨k, rfl | rfl⟩ := exponent.eq_nat_or_neg
  · omega
  · have hdigits : (digits : ℚ) < 2 ^ (digits.log2 + 1) := by exact_mod_cast Nat.lt_log2_self
    have hpow : (10 : ℚ) ^ (-(k : Int)) ≤ 2 ^ (3 * -(k : Int)) := by
      rw [zpow_mul, zpow_neg, zpow_neg, zpow_natCast, zpow_natCast]
      gcongr
      norm_num
    calc (digits * 10 ^ (-(k : Int)) : ℚ) < 2 ^ (digits.log2 + 1) * 2 ^ (3 * -(k : Int)) :=
          mul_lt_mul hdigits hpow (by positivity) (by positivity)
      _ = 2 ^ ((digits.log2 : Int) + 1 + 3 * -(k : Int)) := by
          rw [zpow_add₀ (by norm_num), ← zpow_natCast]
          push_cast
          rfl
      _ ≤ 2 ^ (-1200 : Int) := zpow_le_zpow_right₀ (by norm_num) h.le

theorem scaled_div (digits : Nat) (exponent : Int) :
    ((digits * Nat.pow 10 exponent.toNat : Nat) : ℚ) / (Nat.pow 10 (-exponent).toNat : Nat) =
      digits * 10 ^ exponent := by
  obtain ⟨k, rfl | rfl⟩ := exponent.eq_nat_or_neg
  · simp
  · simp [div_eq_mul_inv]

theorem ofScaled_isNearestTo {negative : Bool} {digits : Nat} {exponent : Int}
    (h : (ofScaled negative digits exponent).isFinite = true) :
    (ofScaled negative digits exponent).IsNearestTo
      (if negative then -(digits * 10 ^ exponent) else digits * 10 ^ exponent) := by
  unfold ofScaled at h ⊢
  by_cases hzero : digits = 0
  · subst hzero
    simpa using zero_isNearestTo negative
  · rw [if_neg hzero] at h ⊢
    by_cases hlarge : exponent > 400
    · rw [if_pos hlarge] at h
      cases h
    · rw [if_neg hlarge] at h ⊢
      by_cases hsmall : (digits.log2 : Int) + 1 + 3 * exponent < -1200
      · rw [if_pos hsmall]
        exact isNearestTo_finite (by decide) (by positivity)
          (isNearestPlace_of_lt (by positivity) (scaled_lt hsmall)) negative
      · rw [if_neg hsmall] at h ⊢
        rw [← scaled_div]
        exact ofRatio_isNearestTo (Nat.pow_pos (by decide)) h

theorem magnitude_eq_scaled (x : Numeral) : x.magnitude =
    digitsValue (x.whole ++ x.fraction) * 10 ^ (x.exponent.getD 0 - x.fraction.length) := by
  rw [Numeral.magnitude, zpow_sub₀ (by norm_num), zpow_natCast]
  ring

/-- A numeral that is not too large for binary numbers is read as the one nearest to its value. -/
theorem toBinary64_isNearestTo {x : Numeral} (h : x.toBinary64.isFinite = true) :
    x.toBinary64.IsNearestTo x.value := by
  rw [Numeral.value, magnitude_eq_scaled]
  exact ofScaled_isNearestTo h

/-! ### The order of nearest numbers -/

section

variable {x y : Binary64} {v w : ℚ}

theorem IsNearestPlace.nonneg {q : ℚ} {p : Int} (hq : 0 ≤ q) (hp : IsNearestPlace q p) : 0 ≤ p :=
  isNearestPlace_zero.mono hp hq

/-- Rounding never turns the order round. -/
theorem IsNearestTo.rank_le (hx : x.IsNearestTo v) (hy : y.IsNearestTo w) (hvw : v < w) :
    x.rank ≤ y.rank := by
  obtain ⟨p, hp, hxrank, hxsign⟩ := hx
  obtain ⟨s, hs, hyrank, hysign⟩ := hy
  have hppos := hp.nonneg (abs_nonneg v)
  have hspos := hs.nonneg (abs_nonneg w)
  rw [hxrank, hyrank]
  split_ifs with hxneg hyneg hyneg
  · have hw : w ≤ 0 := not_lt.mp fun hpos =>
      hpos.not_gt ((hysign hpos.ne').mp hyneg)
    have hsp : s ≤ p := hs.mono hp (by
      rw [abs_of_nonpos hw, abs_of_neg (hvw.trans_le hw)]
      exact neg_le_neg hvw.le)
    omega
  · omega
  · have hv : 0 ≤ v := not_lt.mp fun hneg => hxneg ((hxsign hneg.ne).mpr hneg)
    have hpos : 0 < w := hv.trans_lt hvw
    exact absurd ((hysign hpos.ne').mp hyneg) hpos.not_gt
  · have hv : 0 ≤ v := not_lt.mp fun hneg => hxneg ((hxsign hneg.ne).mpr hneg)
    refine hp.mono hs ?_
    rw [abs_of_nonneg hv, abs_of_pos (hv.trans_lt hvw)]
    exact hvw.le

/-- Two numbers nearest to one value are equal, but for the signs of zeros. -/
theorem IsNearestTo.rank_eq_iff (hx : x.IsNearestTo v) (hy : y.IsNearestTo v) :
    x.rank = y.rank ↔ (v = 0 → x.isNegative = y.isNegative) := by
  obtain ⟨p, hp, hxrank, hxsign⟩ := hx
  obtain ⟨s, hs, hyrank, hysign⟩ := hy
  have hppos := hp.nonneg (abs_nonneg v)
  obtain rfl := hp.unique hs
  have hsign : x.rank = y.rank ↔ x.isNegative = y.isNegative := by
    rw [hxrank, hyrank]
    cases x.isNegative <;> cases y.isNegative <;> simp <;> omega
  rw [hsign]
  refine ⟨fun h _ => h, fun h => ?_⟩
  by_cases hv : v = 0
  · exact h hv
  · rw [Bool.eq_iff_iff, hxsign hv, hysign hv]

end

end PipeQuery.Binary64
