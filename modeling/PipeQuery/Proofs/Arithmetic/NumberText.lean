import PipeQuery.Proofs.Arithmetic.Digits
import PipeQuery.Proofs.Arithmetic.Rounding

/-! The text of a finite number is a number token and is read as the same number, but that the
negative zero comes back without its sign. The digits are either found by reading them back, or
are all digits of the number. -/

namespace PipeQuery

namespace Binary64

variable {negative : Bool} {d m : Nat} {k e : Int} {hc : Canonical m e}

/-! ### Reading digits -/

/-- A positive number is read by rounding a quotient of powers of ten. -/
theorem ofScaled_eq_ofRatio (hm : 0 < m) (h : ofScaled negative d k = .finite negative m e hc) :
    d ≠ 0 ∧ ofRatio negative (d * 10 ^ k.toNat) (10 ^ (-k).toNat) = .finite negative m e hc := by
  have hzero : zero negative ≠ .finite negative m e hc := by
    intro heq
    cases heq
    exact absurd hm (by decide)
  unfold ofScaled at h
  split_ifs at h with hd hlarge hsmall
  · exact absurd h hzero
  · exact absurd h hzero
  · exact ⟨hd, h⟩

/-- Near the range of finite numbers the powers of ten are computed. -/
theorem ofScaled_of_near (hd : d ≠ 0) (hlarge : k ≤ 400)
    (hsmall : -1200 ≤ (d.log2 : Int) + 1 + 3 * k) (negative : Bool) :
    ofScaled negative d k = ofRatio negative (d * 10 ^ k.toNat) (10 ^ (-k).toNat) := by
  rw [ofScaled, if_neg hd, if_neg (by omega), if_neg (by omega)]
  rfl

theorem ofScaled_natural (hd : d ≠ 0) (negative : Bool) :
    ofScaled negative d 0 = ofRatio negative d 1 := by
  rw [ofScaled_of_near hd (by omega) (by omega) negative]
  simp

/-- Digits may be followed by zeros instead of a power of ten. -/
theorem ofScaled_shift (hm : 0 < m) (h : ofScaled negative d k = .finite negative m e hc) :
    ofScaled negative (d * 10 ^ k.toNat) (-((-k).toNat : Int)) = .finite negative m e hc := by
  by_cases hk : 0 ≤ k
  · obtain ⟨hd, hratio⟩ := ofScaled_eq_ofRatio hm h
    have hzero : (-k).toNat = 0 := by omega
    rw [hzero] at hratio ⊢
    rw [← hratio]
    exact ofScaled_natural (by positivity) negative
  · have hzero : k.toNat = 0 := by omega
    have hneg : (-((-k).toNat : Int)) = k := by omega
    rw [hzero, hneg, Nat.pow_zero, Nat.mul_one, h]

theorem ofScaled_neg (d : Nat) (k : Int) : (ofScaled false d k).neg = ofScaled true d k := by
  unfold ofScaled
  split_ifs
  · rfl
  · rfl
  · rfl
  · exact ofRatio_neg _ _

theorem ofScaled_negative (h : ofScaled false d k = .finite false m e hc) (negative : Bool) :
    ofScaled negative d k = .finite negative m e hc := by
  cases negative with
  | false => exact h
  | true =>
    rw [← ofScaled_neg, h]
    rfl

end Binary64

namespace Scaled

theorem onGrid?_eq_some {tie : Tie} {x : Binary64} {num den : Nat} {g : Int} {s : Scaled}
    (h : onGrid? tie x num den g = some s) : s.toBinary64 = x := by
  unfold onGrid? at h
  simp only at h
  split_ifs at h with habove hbelow hbelow'
  · cases h; exact of_decide_eq_true (Bool.and_eq_true_iff.mp hbelow).1
  · cases h; exact habove
  · cases h; exact hbelow'

/-- What the search finds reads back. -/
theorem search_eq_some {tie : Tie} {x : Binary64} {num den steps : Nat} {g : Int} {s : Scaled}
    (h : search tie x num den steps g = some s) : s.toBinary64 = x := by
  induction steps generalizing g with
  | zero => cases h
  | succ steps ih =>
    rw [search] at h
    split at h
    · rename_i hgrid
      cases h
      exact onGrid?_eq_some hgrid
    · exact ih h

/-- All digits of a number read back without rounding. -/
theorem toBinary64_exact {m : Nat} {e : Int} (hm : 0 < m) (hc : Binary64.Canonical m e) :
    (exact m e).toBinary64 = .finite false m e hc := by
  by_cases he : e < 0
  · have hbound := hc.2.1
    obtain ⟨k, rfl⟩ : ∃ k : Nat, e = -k := ⟨(-e).toNat, by omega⟩
    have hneg : (- -(k : Int)).toNat = k ∧ (-(k : Int)).toNat = 0 := by omega
    have hlog : 2 * k ≤ (m * 5 ^ k).log2 := by
      refine (Nat.le_log2 (by positivity)).mpr ?_
      calc 2 ^ (2 * k) = 4 ^ k := pow_mul 2 2 k
        _ ≤ 5 ^ k := Nat.pow_le_pow_left (by omega) k
        _ ≤ m * 5 ^ k := Nat.le_mul_of_pos_left _ hm
    have hscaled : Binary64.IsScaled (m * 5 ^ k) (10 ^ k) m (-k) := by
      rw [Binary64.IsScaled, hneg.1, hneg.2, Nat.pow_zero, Nat.mul_one, Nat.mul_assoc,
        ← Nat.mul_pow]
    rw [exact, if_pos he, toBinary64]
    simp only [hneg.1, Nat.pow_eq]
    rw [Binary64.ofScaled_of_near (by positivity) (by omega) (by omega), hneg.1, hneg.2,
      Nat.pow_zero, Nat.mul_one]
    exact Binary64.ofRatio_eq hscaled (by positivity) hm hc false
  · obtain ⟨k, rfl⟩ : ∃ k : Nat, e = k := ⟨e.toNat, by omega⟩
    have hscaled : Binary64.IsScaled (m * 2 ^ k) 1 m k := by simp [Binary64.IsScaled]
    rw [exact, if_neg he, toBinary64]
    simp only [Int.toNat_natCast, Nat.pow_eq]
    rw [Binary64.ofScaled_natural (by positivity)]
    exact Binary64.ofRatio_eq hscaled (by decide) hm hc false

theorem toBinary64_shortest (tie : Tie) {m : Nat} {e : Int} (hm : 0 < m)
    (hc : Binary64.Canonical m e) :
    (shortest tie m e hc).toBinary64 = .finite false m e hc := by
  have hne : m ≠ 0 := by omega
  simp only [shortest, if_neg hne]
  split
  · rename_i hsearch
    exact search_eq_some hsearch
  · exact toBinary64_exact hm hc

end Scaled

/-! ### The text of a number -/

namespace Binary64

/-- The number that the text of a number stands for: zero is written without a sign. -/
def written (x : Binary64) : Binary64 := if x.isZero then zero false else x

theorem written_of_pos (hm : 0 < m) :
    (finite negative m e hc).written = finite negative m e hc :=
  if_neg (by simp [isZero]; omega)

/-- Equality does not see the sign of a zero. -/
theorem written_equals {x : Binary64} (h : x.isFinite = true) : x.written.equals x = true := by
  cases x with
  | nan => cases h
  | infinity => cases h
  | finite negative m e hc =>
    rcases Nat.eq_zero_or_pos m with rfl | hm
    · simp [written, equals, isZero, zero]
    · rw [written_of_pos hm]
      simp [equals]

theorem toString_natCast (n : Nat) : toString (n : Int) = String.ofList (digitsOf n) :=
  Nat.repr_eq_ofList_toDigits

theorem toString_neg_natCast {n : Nat} (h : 0 < n) :
    toString (-(n : Int)) = String.ofList ('-' :: digitsOf n) := by
  obtain ⟨p, rfl⟩ : ∃ p, n = p + 1 := ⟨n - 1, by omega⟩
  show "-" ++ Nat.repr (p + 1) = _
  rw [Nat.repr_eq_ofList_toDigits]
  simp [digitsOf]

theorem whole?_eq_some {n : Int} (h : (finite negative m e hc).whole? = some n) :
    ∃ q : Nat, IsScaled q 1 m e ∧ n = if negative then -(q : Int) else q := by
  simp only [whole?] at h
  split at h
  · rename_i hwhole
    cases h
    refine ⟨_, ?_, rfl⟩
    have hcancel := Nat.div_mul_cancel (Nat.dvd_of_mod_eq_zero hwhole.1)
    simpa [IsScaled, magnitude] using hcancel
  · cases h

/-- The digits of a whole number and its sign, which zero does not have. -/
theorem text_of_whole {q : Nat} (hq : IsScaled q 1 m e)
    (h : (finite negative m e hc).whole? = some (if negative then -(q : Int) else q)) :
    ∃ sign, (sign = [] ∨ sign = ['-']) ∧
      (finite negative m e hc).text = String.ofList (sign ++ digitsOf q) ∧
      ofScaled (decide (sign = ['-'])) q 0 = (finite negative m e hc).written := by
  rw [text, h]
  rcases Nat.eq_zero_or_pos m with rfl | hm
  · obtain rfl : q = 0 := by simpa [IsScaled] using hq
    exact ⟨[], .inl rfl, by cases negative <;> rfl, rfl⟩
  · have hpos : 0 < q := by
      by_contra hzero
      obtain rfl : q = 0 := by omega
      exact hq.num_ne_zero (by decide) hm rfl
    have hread (negative : Bool) : ofScaled negative q 0 = finite negative m e hc := by
      rw [ofScaled_natural (by omega)]
      exact ofRatio_eq hq (by decide) hm hc negative
    rw [written_of_pos hm]
    cases negative with
    | false => exact ⟨[], .inl rfl, toString_natCast q, hread false⟩
    | true => exact ⟨['-'], .inr rfl, toString_neg_natCast hpos, hread true⟩

/-- The text of a finite number is a number token that is read as this number. -/
theorem exists_numeral {x : Binary64} (h : x.isFinite = true) :
    ∃ sign whole fraction, IsNumber sign whole fraction ∧
      x.text = String.ofList (sign ++ (whole ++ fraction)) ∧
      ofScaled (decide (sign = ['-'])) (digitsValue (whole ++ fraction.drop 1))
        (-(fraction.drop 1).length) = x.written := by
  cases x with
  | nan => cases h
  | infinity => cases h
  | finite negative m e hc =>
    cases hwhole : (finite negative m e hc).whole? with
    | some n =>
      obtain ⟨q, hq, rfl⟩ := whole?_eq_some hwhole
      obtain ⟨sign, hsign, htext, hread⟩ := text_of_whole hq hwhole
      refine ⟨sign, digitsOf q, [], ⟨hsign, digitsOf_ne_nil q, isDigit_of_mem_digitsOf, .none⟩,
        by rw [htext, List.append_nil], ?_⟩
      rw [← hread]
      simp [digitsValue_digitsOf]
    | none =>
      have hm : 0 < m := by
        by_contra hzero
        obtain rfl : m = 0 := by omega
        simp [whole?, magnitude] at hwhole
      obtain ⟨whole, fraction, hnum, htext, hdigits, hplaces⟩ :=
        (Scaled.shortest .up m e hc).exists_positional
      have hsign : (if negative then ['-'] else []) = [] ∨
          (if negative then ['-'] else []) = ['-'] := by cases negative <;> simp
      have hread := ofScaled_shift hm
        (ofScaled_negative (Scaled.toBinary64_shortest .up hm hc) negative)
      refine ⟨if negative then ['-'] else [], whole, fraction,
        ⟨hsign, hnum.whole_ne_nil, hnum.whole, hnum.fraction⟩, ?_, ?_⟩
      · rw [text, hwhole]
        show String.ofList (signed negative _) = _
        rw [htext]
        cases negative <;> rfl
      · rw [hdigits, hplaces, written_of_pos hm, ← hread]
        cases negative <;> rfl

end Binary64

end PipeQuery
