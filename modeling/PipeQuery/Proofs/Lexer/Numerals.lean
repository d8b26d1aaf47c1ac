import PipeQuery.Proofs.Arithmetic.WrittenNumber
import PipeQuery.Proofs.Lexer.Words

/-! Number tokens are read as numbers. Each has the parts that its pattern names, no power of ten
and no plus sign, and is no word for an infinity. -/

namespace PipeQuery

open Unicode

namespace IsNumber

variable {sign whole fraction : List Char}

theorem isDigit_fraction (h : IsNumber sign whole fraction) :
    ∀ c ∈ fraction.drop 1, isDigit c = true := by
  cases h.fraction with
  | none => simp
  | some _ hd => exact hd

theorem exists_sign (h : IsNumber sign whole fraction) :
    ∃ s : WrittenSign, s.chars = sign ∧ s.isMinus = decide (sign = ['-']) := by
  rcases h.sign with rfl | rfl
  · exact ⟨.absent, rfl, rfl⟩
  · exact ⟨.minus, rfl, rfl⟩

theorem splitSign_eq (h : IsNumber sign whole fraction) (rest : List Char) :
    Numeral.splitSign (sign ++ (whole ++ rest)) = (decide (sign = ['-']), whole ++ rest) := by
  obtain ⟨w, ws, rfl, hw⟩ := h.exists_cons
  have hplus : w ≠ '+' := by rintro rfl; exact absurd hw (by decide)
  obtain ⟨s, rfl, hminus⟩ := h.exists_sign
  rw [← hminus]
  exact s.splitSign_append (ws ++ rest) (ne_minus_of_isDigit hw) hplus

/-- A number token is a number as such are written, without a power of ten. -/
theorem exists_written (h : IsNumber sign whole fraction) :
    ∃ x : WrittenNumber, x.chars = sign ++ (whole ++ fraction) ∧
      x.numeral = ⟨decide (sign = ['-']), whole, fraction.drop 1, none⟩ := by
  obtain ⟨s, rfl, hminus⟩ := h.exists_sign
  have hdigits := h.isDigit_fraction
  have hne := h.whole_ne_nil
  cases h.fraction with
  | none =>
    refine ⟨⟨s, whole, none, none, h.whole, by simp, by simpa using hne⟩, ?_, ?_⟩
    · simp [WrittenNumber.chars, WrittenNumber.mantissa]
    · simp [WrittenNumber.numeral, hminus]
  | @some cs _ _ =>
    refine ⟨⟨s, whole, some cs, none, h.whole, hdigits, by simp [hne]⟩, ?_, ?_⟩
    · simp [WrittenNumber.chars, WrittenNumber.mantissa]
    · simp [WrittenNumber.numeral, hminus]

theorem read?_eq (h : IsNumber sign whole fraction) :
    Numeral.read? (sign ++ (whole ++ fraction)) =
      some ⟨decide (sign = ['-']), whole, fraction.drop 1, none⟩ := by
  obtain ⟨x, hchars, hnumeral⟩ := h.exists_written
  rw [← hchars, x.read?_chars, hnumeral]

/-- Words for an infinity or for no number start with a letter. -/
theorem latinLower_ne (h : IsNumber sign whole fraction) {c : Char} {cs : List Char}
    (hc : isDigit c = false) : latinLower (whole ++ fraction) ≠ c :: cs := by
  obtain ⟨w, ws, rfl, hw⟩ := h.exists_cons
  have hcapital : ('A' ≤ w && w ≤ 'Z') = false := by
    by_contra hA
    simp only [isDigit, Bool.and_eq_true, decide_eq_true_eq, Bool.not_eq_false] at hw hA
    exact absurd (Char.le_trans hA.1 hw.2) (by decide)
  rintro heq
  simp only [latinLower, List.cons_append, List.map_cons, hcapital, List.cons.injEq] at heq
  obtain rfl : w = c := heq.1
  rw [hc] at hw
  cases hw

theorem ofText?_eq (h : IsNumber sign whole fraction) :
    Binary64.ofText? (String.ofList (sign ++ (whole ++ fraction))) =
      some (.ofScaled (decide (sign = ['-'])) (digitsValue (whole ++ fraction.drop 1))
        (-(fraction.drop 1).length)) := by
  have hword (c : Char) (cs : List Char) (hc : isDigit c = false) :
      String.ofList (latinLower (whole ++ fraction)) ≠ String.ofList (c :: cs) :=
    fun heq => h.latinLower_ne hc (String.ofList_injective heq)
  simp only [Binary64.ofText?, String.toList_ofList, h.splitSign_eq, h.read?_eq]
  rw [if_neg (not_or.mpr ⟨hword 'i' ['n', 'f'] (by decide),
      hword 'i' ['n', 'f', 'i', 'n', 'i', 't', 'y'] (by decide)⟩),
    if_neg (hword 'n' ['a', 'n'] (by decide))]
  simp [Numeral.toBinary64]

end IsNumber

/-- A number token is read as a number. -/
theorem IsLexeme.exists_value {x : Lexeme} (h : IsLexeme x) (hk : x.kind = .number) :
    ∃ negative digits exponent,
      Binary64.ofText? x.text = some (.ofScaled negative digits exponent) := by
  obtain ⟨sign, whole, fraction, hnum, hraw⟩ := h.exists_number hk
  rw [Lexeme.text, if_neg (by simp [hk]), hraw, List.append_assoc]
  exact ⟨_, _, _, hnum.ofText?_eq⟩

theorem IsLexeme.head?_ne_plus {x : Lexeme} (h : IsLexeme x) (hk : x.kind = .number) :
    x.text.toList.head? ≠ some '+' := by
  obtain ⟨sign, whole, fraction, hnum, hraw⟩ := h.exists_number hk
  obtain ⟨w, ws, rfl, hw⟩ := hnum.exists_cons
  rw [Lexeme.text, if_neg (by simp [hk]), hraw, String.toList_ofList]
  rcases hnum.sign with rfl | rfl
  · rintro heq
    cases heq
    exact absurd hw (by decide)
  · simp

end PipeQuery
