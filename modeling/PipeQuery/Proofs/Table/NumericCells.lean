import PipeQuery.Proofs.Arithmetic.Overflow
import PipeQuery.Proofs.Table.NumericConditions

/-! The cells that count as numbers. They are the ones that are written as a number which is not too
large for binary numbers: what is read as a decimal is far below that bound, and what is not is read
as a binary number. -/

namespace PipeQuery

variable {m : WrittenNumber} {text : String}

/-- The largest power of ten that is not refused leaves every decimal numeral far below the bound. -/
theorem decimals_lt_overflow :
    (Decimal.limit : ℚ) * 10 ^ Decimal.maxScale < Binary64.overflow := by decide +kernel

namespace WrittenNumber

/-- A text that is written as a number counts as one if it is not too large. -/
theorem IsIn.isSome_read?_iff (hin : m.IsIn text) :
    (CellNumber.read? text).isSome = true ↔ |m.value| < Binary64.overflow := by
  constructor
  · intro hsome
    cases hd : Decimal.ofNumeral? m.numeral with
    | some d =>
      exact (Decimal.abs_value_lt_of_ofNumeral? m.isDigit_fraction hd).trans decimals_lt_overflow
    | none =>
      rw [value, ← Binary64.toBinary64_isFinite_iff]
      by_contra hinfinite
      simp [CellNumber.read?, hin.read?_trim, hd, hinfinite] at hsome
  · intro hlt
    obtain ⟨x, hx, -⟩ := exists_isReadAs hin ((Binary64.toBinary64_isFinite_iff m.numeral).mpr hlt)
    rw [hx, Option.isSome_some]

end WrittenNumber

/-- The cells that count as numbers. -/
theorem CellNumber.isSome_read_iff_written (text : String) :
    (read? text).isSome = true ↔
      ∃ m : WrittenNumber, m.IsIn text ∧ |m.value| < Binary64.overflow := by
  constructor
  · intro hsome
    cases hread : Numeral.read? (Unicode.trim text.toList) with
    | none => simp [read?, hread] at hsome
    | some q =>
      obtain ⟨m, hin, -⟩ := WrittenNumber.exists_isIn_of_read?_trim hread
      exact ⟨m, hin, hin.isSome_read?_iff.mp hsome⟩
  · rintro ⟨m, hin, hlt⟩
    exact hin.isSome_read?_iff.mpr hlt

end PipeQuery
