import Mathlib.Algebra.Order.Field.Power
import Mathlib.Algebra.Order.Field.Rat
import Mathlib.Data.List.TakeWhile
import Mathlib.Tactic.Positivity
import PipeQuery.Arithmetic.Numeral
import PipeQuery.Proofs.Lexer.Lexeme
import PipeQuery.Proofs.Unicode.Blank

/-! Numbers as they are written, and what they stand for: a sign, digits around a point and a power
of ten, of which all but one digit may be missing. Each is read as the numeral of its parts, also
with white space around it. -/

namespace PipeQuery

open Unicode

namespace Numeral

/-! ### Values -/

/-- The digits as a fraction, multiplied by the power of ten. -/
def magnitude (x : Numeral) : ℚ :=
  digitsValue (x.whole ++ x.fraction) / 10 ^ x.fraction.length * 10 ^ x.exponent.getD 0

/-- The fraction that a numeral stands for. -/
def value (x : Numeral) : ℚ := if x.negative then -x.magnitude else x.magnitude

theorem magnitude_nonneg (x : Numeral) : 0 ≤ x.magnitude := by
  unfold magnitude
  positivity

theorem abs_value (x : Numeral) : |x.value| = x.magnitude := by
  have habs : |x.magnitude| = x.magnitude := abs_of_nonneg x.magnitude_nonneg
  unfold value
  split_ifs
  · rw [abs_neg, habs]
  · exact habs

/-! ### Splitting -/

theorem isPoint_of_isDigit {c : Char} (h : isDigit c = true) : decide (c = '.') = false := by
  rw [decide_eq_false_iff_not]
  rintro rfl
  exact absurd h (by decide)

theorem splitAt_of_forall {p : Char → Bool} {cs : List Char} (h : ∀ c ∈ cs, p c = false) :
    splitAt p cs = (cs, none) := by
  have hnil : cs.dropWhile (fun c => !p c) = [] := List.dropWhile_eq_nil_iff.mpr (by simpa using h)
  simp [splitAt, hnil]

theorem splitAt_append {p : Char → Bool} {cs ds : List Char} {c : Char}
    (h : ∀ c ∈ cs, p c = false) (hc : p c = true) : splitAt p (cs ++ c :: ds) = (cs, some ds) := by
  have hdrop : (cs ++ c :: ds).dropWhile (fun c => !p c) = c :: ds := by
    rw [List.dropWhile_append_of_pos (by simpa using h)]
    simp [hc]
  have htake : (cs ++ c :: ds).takeWhile (fun c => !p c) = cs :=
    takeWhile_append_of_stops (by simpa using h) (by simpa using hc)
  simp [splitAt, hdrop, htake]

theorem eq_of_splitAt_none {p : Char → Bool} {cs as : List Char}
    (h : splitAt p cs = (as, none)) : cs = as := by
  unfold splitAt at h
  split at h <;> simp_all

theorem exists_of_splitAt_some {p : Char → Bool} {cs as bs : List Char}
    (h : splitAt p cs = (as, some bs)) : ∃ c, p c = true ∧ cs = as ++ c :: bs := by
  unfold splitAt at h
  split at h
  · simp at h
  · next c rest hdrop =>
    obtain ⟨rfl, rfl⟩ : cs.takeWhile (fun c => !p c) = as ∧ rest = bs := by simpa using h
    have hc := List.head_dropWhile_not (fun c => !p c) (l := cs) (by simp [hdrop])
    refine ⟨c, by simpa [hdrop] using hc, ?_⟩
    rw [← hdrop, List.takeWhile_append_dropWhile]

end Numeral

/-! ### Signs -/

/-- The sign in front of a number. -/
inductive WrittenSign
  | absent
  | plus
  | minus
deriving DecidableEq

namespace WrittenSign

def chars : WrittenSign → List Char
  | absent => []
  | plus => ['+']
  | minus => ['-']

def isMinus (sign : WrittenSign) : Bool := sign = minus

/-- A sign is taken off in front of anything that starts with none. -/
theorem splitSign_append (sign : WrittenSign) {c : Char} (cs : List Char) (hminus : c ≠ '-')
    (hplus : c ≠ '+') :
    Numeral.splitSign (sign.chars ++ c :: cs) = (sign.isMinus, c :: cs) := by
  cases sign with
  | absent =>
    show Numeral.splitSign (c :: cs) = (false, c :: cs)
    unfold Numeral.splitSign
    split <;> simp_all
  | plus => rfl
  | minus => rfl

theorem exists_splitSign (cs : List Char) : ∃ sign : WrittenSign,
    sign.chars ++ (Numeral.splitSign cs).2 = cs ∧ sign.isMinus = (Numeral.splitSign cs).1 := by
  unfold Numeral.splitSign
  split
  · exact ⟨minus, rfl, rfl⟩
  · exact ⟨plus, rfl, rfl⟩
  · exact ⟨absent, rfl, rfl⟩

end WrittenSign

/-! ### Powers of ten -/

/-- A power of ten behind a number. -/
structure WrittenPower where
  mark : Char
  sign : WrittenSign
  digits : List Char
  isExponentMark_mark : Numeral.isExponentMark mark = true
  digits_ne_nil : digits ≠ []
  isDigit_digits : ∀ c ∈ digits, isDigit c = true

namespace WrittenPower

def chars (x : WrittenPower) : List Char := x.mark :: (x.sign.chars ++ x.digits)

def value (x : WrittenPower) : Int :=
  if x.sign.isMinus then -(digitsValue x.digits : Int) else digitsValue x.digits

theorem exponent?_chars (x : WrittenPower) :
    Numeral.exponent? (x.sign.chars ++ x.digits) = some x.value := by
  obtain ⟨d, ds, hdigits⟩ := List.exists_cons_of_ne_nil x.digits_ne_nil
  have hd : isDigit d = true := x.isDigit_digits d (by simp [hdigits])
  have hplus : d ≠ '+' := by rintro rfl; exact absurd hd (by decide)
  have hall : x.digits.all isDigit = true := List.all_eq_true.mpr x.isDigit_digits
  rw [hdigits] at hall
  simp only [Numeral.exponent?, value, hdigits,
    x.sign.splitSign_append ds (ne_minus_of_isDigit hd) hplus, hall]
  rfl

/-- Whatever is read behind a mark is a power of ten. -/
theorem exists_of_exponent? {c : Char} {cs : List Char} {e : Int}
    (hc : Numeral.isExponentMark c = true) (h : Numeral.exponent? cs = some e) :
    ∃ x : WrittenPower, x.chars = c :: cs ∧ x.value = e := by
  obtain ⟨sign, hchars, hminus⟩ := WrittenSign.exists_splitSign cs
  rw [Numeral.exponent?, Option.ite_none_left_eq_some, Option.some.injEq] at h
  obtain ⟨hshape, hvalue⟩ := h
  obtain ⟨hne, hdigits⟩ : (Numeral.splitSign cs).2 ≠ [] ∧
      ∀ d ∈ (Numeral.splitSign cs).2, isDigit d = true := by simpa using hshape
  refine ⟨⟨c, sign, (Numeral.splitSign cs).2, hc, hne, hdigits⟩, ?_, ?_⟩
  · rw [chars, hchars]
  · rw [value, hminus]
    exact hvalue

end WrittenPower

/-! ### Numbers -/

/-- A number as it is written: a sign or none, digits before a point or behind it, and a power of
ten or none. -/
structure WrittenNumber where
  sign : WrittenSign
  whole : List Char
  fraction : Option (List Char)
  power : Option WrittenPower
  isDigit_whole : ∀ c ∈ whole, isDigit c = true
  isDigit_fraction : ∀ c ∈ fraction.getD [], isDigit c = true
  digits_ne_nil : whole ++ fraction.getD [] ≠ []

namespace WrittenNumber

variable (x : WrittenNumber)

/-- The digits and the point among them. -/
def mantissa : List Char := x.whole ++ x.fraction.elim [] ('.' :: ·)

/-- The characters of the number. -/
def chars : List Char := x.sign.chars ++ (x.mantissa ++ x.power.elim [] WrittenPower.chars)

/-- The parts of the number. -/
def numeral : Numeral where
  negative := x.sign.isMinus
  whole := x.whole
  fraction := x.fraction.getD []
  exponent := x.power.map WrittenPower.value

/-- The fraction that the number stands for. -/
def value : ℚ := x.numeral.value

/-- The text is the number with nothing but white space around it. -/
def IsIn (text : String) : Prop :=
  ∃ left right, (∀ c ∈ left, isBlank c = true) ∧ (∀ c ∈ right, isBlank c = true) ∧
    text.toList = left ++ (x.chars ++ right)

variable {x}

theorem isDigit_or_point_of_mem_mantissa : ∀ c ∈ x.mantissa, isDigit c = true ∨ c = '.' := by
  intro c hc
  have hfraction := x.isDigit_fraction
  rcases List.mem_append.mp hc with hc | hc
  · exact .inl (x.isDigit_whole c hc)
  · cases hpoint : x.fraction with
    | none => simp [hpoint] at hc
    | some ds =>
      rw [hpoint] at hc hfraction
      rcases List.mem_cons.mp hc with rfl | hc
      · exact .inr rfl
      · exact .inl (hfraction c hc)

theorem exists_mantissa_cons (x : WrittenNumber) :
    ∃ c cs, x.mantissa = c :: cs ∧ c ≠ '-' ∧ c ≠ '+' := by
  obtain ⟨c, cs, hcons⟩ : ∃ c cs, x.mantissa = c :: cs := by
    refine List.exists_cons_of_ne_nil fun hnil => x.digits_ne_nil ?_
    obtain ⟨hwhole, hpoint⟩ := List.append_eq_nil_iff.mp hnil
    cases hfraction : x.fraction with
    | none => simp [hwhole]
    | some ds => simp [hfraction] at hpoint
  refine ⟨c, cs, hcons, ?_⟩
  have hmem : c ∈ x.mantissa := by simp [hcons]
  rcases isDigit_or_point_of_mem_mantissa c hmem with hc | rfl
  · exact ⟨ne_minus_of_isDigit hc, by rintro rfl; exact absurd hc (by decide)⟩
  · decide

theorem splitAt_exponentMark (x : WrittenNumber) :
    Numeral.splitAt Numeral.isExponentMark (x.mantissa ++ x.power.elim [] WrittenPower.chars) =
      (x.mantissa, x.power.map fun p => p.sign.chars ++ p.digits) := by
  have hmantissa : ∀ c ∈ x.mantissa, Numeral.isExponentMark c = false := by
    intro c hc
    rw [Numeral.isExponentMark, Bool.or_eq_false_iff, decide_eq_false_iff_not,
      decide_eq_false_iff_not]
    constructor <;> rintro rfl <;>
      exact absurd (isDigit_or_point_of_mem_mantissa _ hc) (by decide)
  cases x.power with
  | none => simpa using Numeral.splitAt_of_forall hmantissa
  | some p => exact Numeral.splitAt_append hmantissa p.isExponentMark_mark

theorem splitAt_point (x : WrittenNumber) :
    Numeral.splitAt (· = '.') x.mantissa = (x.whole, x.fraction) := by
  have hwhole : ∀ c ∈ x.whole, decide (c = '.') = false :=
    fun c hc => Numeral.isPoint_of_isDigit (x.isDigit_whole c hc)
  rw [mantissa]
  cases x.fraction with
  | none => simpa using Numeral.splitAt_of_forall hwhole
  | some ds => exact Numeral.splitAt_append hwhole (by simp)

/-- A number is read as the numeral of its parts. -/
theorem read?_chars (x : WrittenNumber) : Numeral.read? x.chars = some x.numeral := by
  obtain ⟨c, cs, hcons, hminus, hplus⟩ := x.exists_mantissa_cons
  have hsign : Numeral.splitSign x.chars =
      (x.sign.isMinus, x.mantissa ++ x.power.elim [] WrittenPower.chars) := by
    rw [chars, hcons]
    exact x.sign.splitSign_append _ hminus hplus
  have hwhole : x.whole.all isDigit = true := List.all_eq_true.mpr x.isDigit_whole
  have hfraction : (x.fraction.getD []).all isDigit = true :=
    List.all_eq_true.mpr x.isDigit_fraction
  have hne : (x.whole.isEmpty && (x.fraction.getD []).isEmpty) = false := by
    simpa [List.append_eq_nil_iff] using x.digits_ne_nil
  simp only [Numeral.read?, hsign, x.splitAt_exponentMark, x.splitAt_point, hwhole, hfraction, hne]
  cases hpower : x.power with
  | none => simp [numeral, hpower]
  | some p => simp [numeral, hpower, p.exponent?_chars]

theorem mantissa_of_splitAt {cs whole : List Char} {fraction : Option (List Char)}
    (h : Numeral.splitAt (· = '.') cs = (whole, fraction)) :
    whole ++ fraction.elim [] ('.' :: ·) = cs := by
  cases fraction with
  | none => simp [Numeral.eq_of_splitAt_none h]
  | some ds =>
    obtain ⟨c, hc, rfl⟩ := Numeral.exists_of_splitAt_some h
    rw [of_decide_eq_true hc]
    rfl

/-- Whatever is read as a numeral is a number. -/
theorem exists_of_read? {cs : List Char} {q : Numeral} (h : Numeral.read? cs = some q) :
    ∃ x : WrittenNumber, x.chars = cs ∧ x.numeral = q := by
  obtain ⟨sign, hsign, hminus⟩ := WrittenSign.exists_splitSign cs
  obtain ⟨mantissa, power, hbody⟩ : ∃ mantissa power, Numeral.splitAt Numeral.isExponentMark
      (Numeral.splitSign cs).2 = (mantissa, power) := ⟨_, _, rfl⟩
  obtain ⟨whole, fraction, hmantissa⟩ : ∃ whole fraction,
      Numeral.splitAt (· = '.') mantissa = (whole, fraction) := ⟨_, _, rfl⟩
  simp only [Numeral.read?, hbody, hmantissa, Option.ite_none_left_eq_some] at h
  obtain ⟨hshape, h⟩ := h
  obtain ⟨⟨hne, hwhole⟩, hfraction⟩ : (whole ++ fraction.getD [] ≠ [] ∧
      ∀ c ∈ whole, isDigit c = true) ∧ ∀ c ∈ fraction.getD [], isDigit c = true := by
    simpa [List.append_eq_nil_iff, imp_iff_not_or] using hshape
  have hparts := mantissa_of_splitAt hmantissa
  cases power with
  | none =>
    refine ⟨⟨sign, whole, fraction, none, hwhole, hfraction, hne⟩, ?_, ?_⟩
    · rw [chars, WrittenNumber.mantissa, hparts, Option.elim_none, List.append_nil,
        ← Numeral.eq_of_splitAt_none hbody, hsign]
    · rw [numeral, hminus]
      exact Option.some.inj h
  | some ds =>
    obtain ⟨c, hc, hds⟩ := Numeral.exists_of_splitAt_some hbody
    obtain ⟨e, he, hq⟩ := Option.map_eq_some_iff.mp h
    obtain ⟨p, hchars, rfl⟩ := WrittenPower.exists_of_exponent? hc he
    refine ⟨⟨sign, whole, fraction, some p, hwhole, hfraction, hne⟩, ?_, ?_⟩
    · rw [chars, WrittenNumber.mantissa, hparts, Option.elim_some, hchars, ← hds, hsign]
    · rw [numeral, hminus]
      exact hq

/-! ### White space around a number -/

theorem chars_ne_nil (x : WrittenNumber) : x.chars ≠ [] := by
  obtain ⟨c, cs, hcons, -⟩ := x.exists_mantissa_cons
  simp [chars, hcons]

theorem isDigit_or_mark_of_mem_chars {c : Char} (hc : c ∈ x.chars) :
    isDigit c = true ∨ c ∈ ['+', '-', '.', 'e', 'E'] := by
  have hsign (sign : WrittenSign) : ∀ c ∈ sign.chars, c ∈ ['+', '-', '.', 'e', 'E'] := by
    cases sign <;> simp [WrittenSign.chars]
  rw [chars, List.mem_append, List.mem_append] at hc
  rcases hc with hc | hc | hc
  · exact .inr (hsign _ c hc)
  · rcases isDigit_or_point_of_mem_mantissa c hc with hdigit | rfl
    · exact .inl hdigit
    · exact .inr (by simp)
  · cases hpower : x.power with
    | none => simp [hpower] at hc
    | some p =>
      rw [hpower, Option.elim_some, WrittenPower.chars, List.mem_cons, List.mem_append] at hc
      rcases hc with rfl | hc | hc
      · have hmark := p.isExponentMark_mark
        rw [Numeral.isExponentMark, Bool.or_eq_true, decide_eq_true_iff, decide_eq_true_iff]
          at hmark
        rcases hmark with h | h <;> simp [h]
      · exact .inr (hsign _ c hc)
      · exact .inl (p.isDigit_digits c hc)

theorem isBlank_of_mem_chars {c : Char} (hc : c ∈ x.chars) : isBlank c = false := by
  rcases isDigit_or_mark_of_mem_chars hc with hdigit | hmark
  · have := isDigit_iff.mp hdigit
    exact isBlank_eq_false (by omega) (by omega)
  · have hmarks : (['+', '-', '.', 'e', 'E'].all fun c => !isBlank c) = true := by decide
    simpa using List.all_eq_true.mp hmarks c hmark

theorem IsIn.trim_eq {text : String} (h : x.IsIn text) : trim text.toList = x.chars := by
  obtain ⟨left, right, hleft, hright, htext⟩ := h
  rw [htext]
  exact trim_append hleft (fun c hc => isBlank_of_mem_chars hc) hright x.chars_ne_nil

/-- A number is read as the numeral of its parts also with white space around it. -/
theorem IsIn.read?_trim {text : String} (h : x.IsIn text) :
    Numeral.read? (trim text.toList) = some x.numeral := by
  rw [h.trim_eq, read?_chars]

/-- Only numbers with white space around them are read as numerals. -/
theorem exists_isIn_of_read?_trim {text : String} {q : Numeral}
    (h : Numeral.read? (trim text.toList) = some q) :
    ∃ x : WrittenNumber, x.IsIn text ∧ x.numeral = q := by
  obtain ⟨x, hchars, hnumeral⟩ := exists_of_read? h
  obtain ⟨left, right, hleft, hright, htext⟩ := exists_trim text.toList
  rw [← hchars] at htext
  exact ⟨x, ⟨left, right, hleft, hright, htext⟩, hnumeral⟩

/-- A text is one number at most, so it has one value. -/
theorem IsIn.numeral_eq {text : String} {y : WrittenNumber} (hx : x.IsIn text) (hy : y.IsIn text) :
    x.numeral = y.numeral :=
  Option.some.inj (hx.read?_trim.symm.trans hy.read?_trim)

end WrittenNumber

end PipeQuery
