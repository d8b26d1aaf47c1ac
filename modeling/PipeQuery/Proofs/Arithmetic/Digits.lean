import Mathlib.Algebra.Group.Nat.Defs
import Mathlib.Tactic.Common
import PipeQuery.Arithmetic.Numeral
import PipeQuery.Arithmetic.Shortest
import PipeQuery.Proofs.Lexer.Lexeme

/-! Decimal digits. The digits of a natural number stand for it, and a decimal fraction is written
as a number token whose digits, without the point, are those of the fraction. -/

namespace PipeQuery

open Unicode

theorem digitsValue_append (cs ds : List Char) :
    digitsValue (cs ++ ds) = digitsValue cs * 10 ^ ds.length + digitsValue ds := by
  calc digitsValue (cs ++ ds) = Nat.ofDigitChars 10 ds (digitsValue cs) := by
        simp only [digitsValue, List.foldl_append]
        rfl
    _ = 10 ^ ds.length * digitsValue cs + Nat.ofDigitChars 10 ds 0 :=
        Nat.ofDigitChars_eq_ofDigitChars_zero
    _ = digitsValue cs * 10 ^ ds.length + digitsValue ds := by
        rw [Nat.mul_comm]
        rfl

theorem digitsValue_cons (c : Char) (cs : List Char) :
    digitsValue (c :: cs) = digitValue c * 10 ^ cs.length + digitsValue cs := by
  rw [← List.singleton_append, digitsValue_append]
  simp [digitsValue]

theorem digitValue_le {c : Char} (h : isDigit c = true) : digitValue c ≤ 9 := by
  have := isDigit_iff.mp h
  unfold digitValue
  omega

theorem digitsValue_lt {cs : List Char} (h : ∀ c ∈ cs, isDigit c = true) :
    digitsValue cs < 10 ^ cs.length := by
  induction cs with
  | nil => decide
  | cons c cs ih =>
    have hc : digitValue c ≤ 9 := digitValue_le (h c (by simp))
    have hcs := ih fun d hd => h d (by simp [hd])
    calc digitsValue (c :: cs) = digitValue c * 10 ^ cs.length + digitsValue cs :=
          digitsValue_cons c cs
      _ < 9 * 10 ^ cs.length + 10 ^ cs.length :=
          Nat.add_lt_add_of_le_of_lt (Nat.mul_le_mul_right _ hc) hcs
      _ = 10 ^ (c :: cs).length := by
          rw [List.length_cons, Nat.pow_succ]
          omega

theorem digitsValue_digitsOf (n : Nat) : digitsValue (digitsOf n) = n :=
  Nat.ofDigitChars_ten_toDigits

theorem digitsValue_zeros (k : Nat) : digitsValue (List.replicate k '0') = 0 := by
  have h : Nat.ofDigitChars 10 (List.replicate k '0') 0 = 0 := by simp
  exact h

theorem isDigit_of_mem_digitsOf {n : Nat} : ∀ c ∈ digitsOf n, isDigit c = true := by
  intro c hc
  have h := Nat.isDigit_of_mem_toDigits (by decide) (by decide) hc
  simpa [Char.isDigit, isDigit, Char.le_def] using h

theorem isDigit_of_mem_zeros {k : Nat} : ∀ c ∈ List.replicate k '0', isDigit c = true := by
  intro c hc
  rw [(List.mem_replicate.mp hc).2]
  decide

theorem digitsOf_ne_nil (n : Nat) : digitsOf n ≠ [] := Nat.toDigits_ne_nil

namespace Scaled

/-- The digits of a decimal fraction, filled up with zeros to one place before the point. -/
def padded (x : Scaled) : List Char :=
  List.replicate ((-x.exponent).toNat + 1 - (digitsOf x.digits).length) '0' ++ digitsOf x.digits

theorem isDigit_of_mem_padded (x : Scaled) : ∀ c ∈ x.padded, isDigit c = true := by
  intro c hc
  rcases List.mem_append.mp hc with hc | hc
  · exact isDigit_of_mem_zeros c hc
  · exact isDigit_of_mem_digitsOf c hc

theorem digitsValue_padded (x : Scaled) : digitsValue x.padded = x.digits := by
  rw [padded, digitsValue_append, digitsValue_zeros, digitsValue_digitsOf, Nat.zero_mul,
    Nat.zero_add]

theorem lt_length_padded (x : Scaled) : (-x.exponent).toNat < x.padded.length := by
  simp only [padded, List.length_append, List.length_replicate]
  omega

/-- A decimal fraction without a power of ten is a number token. -/
theorem exists_positional (x : Scaled) :
    ∃ whole fraction, IsNumber [] whole fraction ∧ x.positional = whole ++ fraction ∧
      digitsValue (whole ++ fraction.drop 1) = x.digits * 10 ^ x.exponent.toNat ∧
      (fraction.drop 1).length = (-x.exponent).toNat := by
  by_cases he : 0 ≤ x.exponent
  · refine ⟨digitsOf x.digits ++ List.replicate x.exponent.toNat '0', [],
      ⟨.inl rfl, by simp [digitsOf_ne_nil], ?_, .none⟩, by simp [positional, he], ?_, ?_⟩
    · intro c hc
      rcases List.mem_append.mp hc with hc | hc
      · exact isDigit_of_mem_digitsOf c hc
      · exact isDigit_of_mem_zeros c hc
    · simp [digitsValue_append, digitsValue_zeros, digitsValue_digitsOf]
    · show 0 = (-x.exponent).toNat
      omega
  · have hlength := x.lt_length_padded
    have hplaces : 0 < (-x.exponent).toNat := by omega
    refine ⟨x.padded.take (x.padded.length - (-x.exponent).toNat),
      '.' :: x.padded.drop (x.padded.length - (-x.exponent).toNat),
      ⟨.inl rfl, ?_, ?_, .some ?_ ?_⟩, by rw [positional, if_neg he]; rfl, ?_, ?_⟩
    · exact List.ne_nil_of_length_pos (by rw [List.length_take]; omega)
    · exact fun c hc => x.isDigit_of_mem_padded c (List.mem_of_mem_take hc)
    · exact List.ne_nil_of_length_pos (by rw [List.length_drop]; omega)
    · exact fun c hc => x.isDigit_of_mem_padded c (List.mem_of_mem_drop hc)
    · have hzero : x.exponent.toNat = 0 := by omega
      rw [List.drop_one, List.tail_cons, List.take_append_drop, digitsValue_padded, hzero,
        Nat.pow_zero, Nat.mul_one]
    · rw [List.drop_one, List.tail_cons, List.length_drop]
      omega

end Scaled

end PipeQuery
