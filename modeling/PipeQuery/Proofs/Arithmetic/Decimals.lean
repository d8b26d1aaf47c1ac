import Mathlib.Data.Rat.Floor
import Mathlib.Order.Compare
import Mathlib.Tactic.Linarith
import Mathlib.Tactic.NormNum
import PipeQuery.Arithmetic.Decimal

/-! Decimals as fractions, and the rounding of fractions to decimals: to as many places as leave the
coefficient small enough. Rounding changes no decimal and keeps the order of values. -/

namespace PipeQuery

namespace Decimal

/-! ### Values -/

/-- The fraction that a decimal stands for. -/
def value (x : Decimal) : ℚ := x.coefficient / 10 ^ x.scale

theorem value_lt_value_iff (x y : Decimal) : x.value < y.value ↔
    x.coefficient * (10 ^ y.scale : Nat) < y.coefficient * (10 ^ x.scale : Nat) := by
  have hx : (0 : ℚ) < 10 ^ x.scale := by positivity
  have hy : (0 : ℚ) < 10 ^ y.scale := by positivity
  rw [value, value, div_lt_div_iff₀ hx hy]
  exact_mod_cast Iff.rfl

/-- Decimals are compared as fractions. -/
theorem order_eq_cmp (x y : Decimal) : x.order y = cmp x.value y.value := by
  simp only [cmp, cmpUsing, value_lt_value_iff]
  rfl

/-- The fraction that a magnitude stands for. -/
def Magnitude.value (x : Magnitude) : ℚ := x.coefficient / 10 ^ x.scale

/-- The magnitude is one of a decimal. -/
def Magnitude.InRange (x : Magnitude) : Prop := x.coefficient < limit ∧ x.scale ≤ maxScale

theorem Magnitude.InRange.value_lt {x : Magnitude} (h : x.InRange) : x.value < limit :=
  calc x.value ≤ x.coefficient := div_le_self (by positivity) (one_le_pow₀ (by norm_num))
    _ < limit := by exact_mod_cast h.1

theorem value_withSign (negative : Bool) (x : Magnitude) :
    (withSign negative x).value = if negative then -x.value else x.value := by
  cases negative <;> simp [withSign, value, Magnitude.value, neg_div]

/-! ### Rounding -/

/-- The places of a decimal near `v`: as many as leave the coefficient below the limit. -/
def placesFor (v : ℚ) : Nat := Nat.findGreatest (fun k => v * 10 ^ k < limit) maxScale

/-- A coefficient that reaches the limit goes on to the next multiple of ten, which loses its last
digit. -/
def carried (n : Nat) : Nat := if n < limit then n else limit + 4

/-- The decimal that a fraction which is not negative is rounded to, a half going up. -/
def rounded (v : ℚ) : ℚ := carried ⌊v * 10 ^ placesFor v + 1 / 2⌋₊ / 10 ^ placesFor v

variable {v w : ℚ} {p : Nat}

theorem placesFor_le (v : ℚ) : placesFor v ≤ maxScale := Nat.findGreatest_le _

theorem mul_pow_placesFor_lt (h : v < limit) : v * 10 ^ placesFor v < limit :=
  Nat.findGreatest_spec (P := fun k => v * 10 ^ k < limit) (Nat.zero_le _) (by simpa using h)

theorem le_placesFor (hp : p ≤ maxScale) (h : v * 10 ^ p < limit) : p ≤ placesFor v :=
  Nat.le_findGreatest hp h

/-- One more place would be too many, or leave too large a coefficient. -/
theorem limit_le_of_placesFor_lt (hp : placesFor v < p) (hle : p ≤ maxScale) :
    limit ≤ v * 10 ^ p :=
  not_lt.mp fun hlt => absurd (le_placesFor hle hlt) (Nat.not_le.mpr hp)

theorem placesFor_eq (hv : 0 ≤ v) (hp : p ≤ maxScale) (hlt : v * 10 ^ p < limit)
    (hfull : p = maxScale ∨ limit ≤ v * 10 ^ (p + 1)) : placesFor v = p := by
  refine le_antisymm ?_ (le_placesFor hp hlt)
  rcases hfull with rfl | hfull
  · exact placesFor_le v
  · by_contra hgt
    have hspec : v * 10 ^ placesFor v < limit :=
      Nat.findGreatest_of_ne_zero (P := fun k => v * 10 ^ k < limit) rfl (by omega)
    refine absurd hspec (not_lt.mpr (hfull.trans ?_))
    gcongr
    · norm_num
    · omega

theorem carried_le (n : Nat) : carried n ≤ limit + 4 := by
  unfold carried
  split_ifs <;> omega

theorem carried_mono {m n : Nat} (h : m ≤ n) : carried m ≤ carried n := by
  unfold carried
  split_ifs <;> omega

/-- The values of decimals are not rounded. -/
theorem rounded_of_inRange {x : Magnitude} (h : x.InRange) : rounded x.value = x.value := by
  have hscaled : x.value * 10 ^ x.scale = x.coefficient := by
    rw [Magnitude.value, div_mul_cancel₀ _ (by positivity)]
  have hp : x.scale ≤ placesFor x.value :=
    le_placesFor h.2 (by rw [hscaled]; exact_mod_cast h.1)
  obtain ⟨k, hk⟩ := Nat.exists_eq_add_of_le hp
  have hwhole : x.value * 10 ^ placesFor x.value = (x.coefficient * 10 ^ k : Nat) := by
    rw [hk, pow_add, ← mul_assoc, hscaled]
    push_cast
    rfl
  have hsmall : x.coefficient * 10 ^ k < limit := by
    have := mul_pow_placesFor_lt h.value_lt
    rw [hwhole] at this
    exact_mod_cast this
  have hfloor : ⌊((x.coefficient * 10 ^ k : Nat) : ℚ) + 1 / 2⌋₊ = x.coefficient * 10 ^ k := by
    rw [Nat.floor_eq_iff (by positivity)]
    constructor <;> norm_num
  rw [rounded, hwhole, hfloor, carried, if_pos hsmall, ← hwhole,
    mul_div_cancel_right₀ _ (by positivity)]

/-- Rounding keeps the order of values, also where these are rounded to different places. -/
theorem rounded_mono (hvw : v ≤ w) (hw : w < limit) : rounded v ≤ rounded w := by
  have hplaces : placesFor w ≤ placesFor v := by
    refine le_placesFor (placesFor_le w) (lt_of_le_of_lt ?_ (mul_pow_placesFor_lt hw))
    gcongr
  rcases hplaces.eq_or_lt with heq | hlt
  · rw [rounded, rounded, heq]
    gcongr
    exact carried_mono (Nat.floor_mono (by gcongr))
  · -- The larger value has fewer places, as one more would let its coefficient reach the limit.
    have hfull : limit ≤ w * 10 ^ (placesFor w + 1) :=
      limit_le_of_placesFor_lt (Nat.lt_succ_self _) (hlt.trans_le (placesFor_le v))
    have hcarried : ((limit : ℚ) + 4) / 10 ≤ carried ⌊w * 10 ^ placesFor w + 1 / 2⌋₊ := by
      have hfloor : 7922816251426433759354395034 ≤ ⌊w * 10 ^ placesFor w + 1 / 2⌋₊ := by
        refine Nat.le_floor ?_
        rw [pow_succ] at hfull
        norm_num [limit] at hfull ⊢
        linarith
      have hmono : 7922816251426433759354395034 ≤ carried _ := carried_mono hfloor
      calc ((limit : ℚ) + 4) / 10 = (7922816251426433759354395034 : Nat) := by norm_num [limit]
        _ ≤ _ := by exact_mod_cast hmono
    calc rounded v ≤ (limit + 4 : Nat) / 10 ^ placesFor v := by
          rw [rounded]
          gcongr
          exact carried_le _
      _ ≤ (limit + 4 : Nat) / 10 ^ (placesFor w + 1) := by
          gcongr
          · norm_num
          · omega
      _ = ((limit : ℚ) + 4) / 10 / 10 ^ placesFor w := by
          push_cast
          rw [pow_succ, div_div, mul_comm]
      _ ≤ rounded w := by
          rw [rounded]
          gcongr

theorem rounded_zero : rounded 0 = 0 := by
  have hzero : rounded (Magnitude.value ⟨0, 0⟩) = Magnitude.value ⟨0, 0⟩ :=
    rounded_of_inRange ⟨by decide, by decide⟩
  simpa [Magnitude.value] using hzero

/-- The decimal that a fraction of either sign is rounded to. -/
def nearby (v : ℚ) : ℚ := if v < 0 then -rounded (-v) else rounded v

theorem rounded_nonneg (v : ℚ) : 0 ≤ rounded v := by
  unfold rounded
  positivity

theorem nearby_signed (negative : Bool) (hv : 0 ≤ v) :
    nearby (if negative then -v else v) = if negative then -rounded v else rounded v := by
  cases negative with
  | false => simp [nearby, hv]
  | true =>
    rcases hv.eq_or_lt with rfl | hpos
    · simp [nearby, rounded_zero]
    · simp [nearby, hpos]

theorem nearby_mono (hvw : v ≤ w) (hv : -v < limit) (hw : w < limit) : nearby v ≤ nearby w := by
  unfold nearby
  split_ifs with hvneg hwneg hwneg
  · exact neg_le_neg (rounded_mono (neg_le_neg hvw) hv)
  · exact (neg_nonpos.mpr (rounded_nonneg _)).trans (rounded_nonneg _)
  · exact absurd (hvw.trans_lt hwneg) hvneg
  · exact rounded_mono hvw hw

end Decimal

end PipeQuery
