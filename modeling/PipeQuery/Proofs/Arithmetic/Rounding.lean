import Mathlib.Tactic.Common
import Mathlib.Tactic.GCongr
import Mathlib.Tactic.Positivity
import Mathlib.Tactic.Ring
import PipeQuery.Arithmetic.Binary64

/-! Rounding is exact on the numbers that need none: a quotient that equals `m * 2 ^ e`, where
these are the mantissa and the exponent of a number, is rounded to that number. -/

namespace PipeQuery.Binary64

/-- The quotient `num / den` is `m * 2 ^ e`, cleared of fractions. -/
def IsScaled (num den m : Nat) (e : Int) : Prop :=
  num * 2 ^ (-e).toNat = m * (den * 2 ^ e.toNat)

section

variable {num den m : Nat} {e : Int}

/-- A mantissa twice as large at the exponent below. -/
theorem IsScaled.double (h : IsScaled num den m e) : IsScaled num den (2 * m) (e - 1) := by
  unfold IsScaled at h ⊢
  by_cases he : 0 < e
  · have hneg : (-e).toNat = 0 ∧ (-(e - 1)).toNat = 0 := by omega
    have hpos : e.toNat = (e - 1).toNat + 1 := by omega
    rw [hneg.1, hpos] at h
    rw [hneg.2, h, pow_succ]
    ring
  · have hneg : (-(e - 1)).toNat = (-e).toNat + 1 := by omega
    have hpos : e.toNat = 0 ∧ (e - 1).toNat = 0 := by omega
    rw [hpos.1] at h
    rw [hneg, hpos.2, pow_succ, ← Nat.mul_assoc, h]
    ring

/-- A common factor may be cancelled. -/
theorem IsScaled.cancel {g : Nat} (hg : 0 < g) (h : IsScaled (g * num) (g * den) m e) :
    IsScaled num den m e := by
  refine Nat.eq_of_mul_eq_mul_left hg ?_
  calc g * (num * 2 ^ (-e).toNat) = g * num * 2 ^ (-e).toNat := by ring
    _ = m * (g * den * 2 ^ e.toNat) := h
    _ = g * (m * (den * 2 ^ e.toNat)) := by ring

theorem IsScaled.scaleDown_eq (h : IsScaled num den m e) :
    scaleDown num den e = (m * (den * 2 ^ e.toNat), den * 2 ^ e.toNat) := by
  rw [← h]
  rfl

theorem IsScaled.quotient (h : IsScaled num den m e) (hden : 0 < den) :
    (scaleDown num den e).1 / (scaleDown num den e).2 = m := by
  rw [h.scaleDown_eq]
  exact Nat.mul_div_cancel _ (by positivity)

theorem IsScaled.num_ne_zero (h : IsScaled num den m e) (hden : 0 < den) (hm : 0 < m) :
    num ≠ 0 := by
  rintro rfl
  have hpos : 0 < m * (den * 2 ^ e.toNat) := by positivity
  rw [← h, Nat.zero_mul] at hpos
  cases hpos

/-- The binary logarithms of numerator and denominator differ by that of the quotient, or by
one more. -/
theorem IsScaled.log2_sub (h : IsScaled num den m e) (hden : 0 < den) (hm : 0 < m) :
    (num.log2 : Int) - den.log2 = m.log2 + e ∨ (num.log2 : Int) - den.log2 = m.log2 + e + 1 := by
  have hnum : num ≠ 0 := h.num_ne_zero hden hm
  have hlow : 2 ^ (m.log2 + den.log2 + e.toNat) < 2 ^ (num.log2 + 1 + (-e).toNat) := by
    calc 2 ^ (m.log2 + den.log2 + e.toNat) = 2 ^ m.log2 * (2 ^ den.log2 * 2 ^ e.toNat) := by
          rw [pow_add, pow_add, Nat.mul_assoc]
      _ ≤ m * (den * 2 ^ e.toNat) := by
          gcongr <;> exact Nat.log2_self_le (by omega)
      _ = num * 2 ^ (-e).toNat := h.symm
      _ < 2 ^ (num.log2 + 1) * 2 ^ (-e).toNat := by
          gcongr; exact Nat.lt_log2_self
      _ = 2 ^ (num.log2 + 1 + (-e).toNat) := (pow_add _ _ _).symm
  have hhigh : 2 ^ (num.log2 + (-e).toNat) < 2 ^ (m.log2 + 1 + (den.log2 + 1) + e.toNat) := by
    calc 2 ^ (num.log2 + (-e).toNat) = 2 ^ num.log2 * 2 ^ (-e).toNat := pow_add _ _ _
      _ ≤ num * 2 ^ (-e).toNat := by
          gcongr; exact Nat.log2_self_le hnum
      _ = m * (den * 2 ^ e.toNat) := h
      _ < 2 ^ (m.log2 + 1) * (2 ^ (den.log2 + 1) * 2 ^ e.toNat) := by
          gcongr <;> exact Nat.lt_log2_self
      _ = 2 ^ (m.log2 + 1 + (den.log2 + 1) + e.toNat) := by
          rw [pow_add 2 (m.log2 + 1 + (den.log2 + 1)), pow_add 2 (m.log2 + 1), Nat.mul_assoc]
  have hlow' := (Nat.pow_lt_pow_iff_right (by omega)).mp hlow
  have hhigh' := (Nat.pow_lt_pow_iff_right (by omega)).mp hhigh
  omega

end

/-! ### The exponent of a number -/

theorem Canonical.log2_le {m : Nat} {e : Int} (h : Canonical m e) (hm : 0 < m) :
    m.log2 ≤ 52 := by
  have hlt : m.log2 < 53 := (Nat.log2_lt (by omega)).mpr h.1
  omega

/-- The mantissa has 53 bits unless the exponent is the least one. -/
theorem Canonical.log2_eq {m : Nat} {e : Int} (h : Canonical m e) (hm : 0 < m)
    (he : e ≠ -1074) : m.log2 = 52 := by
  have hle := h.log2_le hm
  have hge : 52 ≤ m.log2 := (Nat.le_log2 (by omega)).mpr (h.2.2.2.resolve_right he)
  omega

theorem exponentFor_eq {num den m : Nat} {e : Int} (h : IsScaled num den m e) (hden : 0 < den)
    (hm : 0 < m) (hc : Canonical m e) : exponentFor num den = e := by
  have hlog := h.log2_sub hden hm
  have hle := hc.log2_le hm
  have hmin := hc.2.1
  have hmantissa := hc.1
  -- The guess is the exponent or, for a mantissa of 53 bits, the one below.
  rw [exponentFor]
  generalize hg : (if (num.log2 : Int) - den.log2 - 53 < -1074 then (-1074 : Int)
    else (num.log2 : Int) - den.log2 - 53) = g
  by_cases hge : g = e
  · subst hge
    exact if_pos ((h.quotient hden).trans_lt hmantissa)
  · have hne : e ≠ -1074 := by
      rintro rfl
      split_ifs at hg <;> omega
    have hbits := hc.log2_eq hm hne
    have hgdown : g = e - 1 := by split_ifs at hg <;> omega
    have hmantissa' := hc.2.2.2.resolve_right hne
    subst hgdown
    have hdouble : 0x20000000000000 ≤ 2 * m := by omega
    exact (if_neg (hdouble.trans_eq (h.double.quotient hden).symm).not_gt).trans
      (Int.sub_add_cancel e 1)

/-! ### Rounding of a number -/

theorem roundHalfEven_mul (m : Nat) {d : Nat} (hd : 0 < d) : roundHalfEven (m * d) d = m := by
  simp [roundHalfEven, Nat.mul_mod_left, Nat.mul_div_cancel m hd, hd]

theorem ofReduced_eq {num den m : Nat} {e : Int} (h : IsScaled num den m e) (hden : 0 < den)
    (hm : 0 < m) (hc : Canonical m e) (negative : Bool) :
    ofReduced negative num den = .finite negative m e hc := by
  have hd : 0 < den * 2 ^ e.toNat := by positivity
  have hne : m ≠ 0x20000000000000 := Nat.ne_of_lt hc.1
  simp only [ofReduced, exponentFor_eq h hden hm hc, h.scaleDown_eq, roundHalfEven_mul m hd, hne,
    if_false, ofRounded, dif_pos hc]

/-- A number is its own nearest number. -/
theorem ofRatio_eq {num den m : Nat} {e : Int} (h : IsScaled num den m e) (hden : 0 < den)
    (hm : 0 < m) (hc : Canonical m e) (negative : Bool) :
    ofRatio negative num den = .finite negative m e hc := by
  have hnum : num ≠ 0 := h.num_ne_zero hden hm
  have hg : 0 < Nat.gcd num den := Nat.gcd_pos_of_pos_right num hden
  have hreduced : IsScaled (num / Nat.gcd num den) (den / Nat.gcd num den) m e := by
    refine IsScaled.cancel hg ?_
    rwa [Nat.mul_div_cancel' (Nat.gcd_dvd_left num den),
      Nat.mul_div_cancel' (Nat.gcd_dvd_right num den)]
  have hden' : 0 < den / Nat.gcd num den :=
    Nat.div_pos (Nat.le_of_dvd hden (Nat.gcd_dvd_right num den)) hg
  rw [ofRatio, if_neg hnum]
  exact ofReduced_eq hreduced hden' hm hc negative

/-! ### Signs -/

theorem ofRounded_neg (m : Nat) (e : Int) : (ofRounded false m e).neg = ofRounded true m e := by
  unfold ofRounded
  split_ifs <;> rfl

/-- The sign does not matter for rounding. -/
theorem ofRatio_neg (num den : Nat) : (ofRatio false num den).neg = ofRatio true num den := by
  unfold ofRatio ofReduced
  simp only
  split_ifs
  · rfl
  all_goals exact ofRounded_neg _ _

end PipeQuery.Binary64
