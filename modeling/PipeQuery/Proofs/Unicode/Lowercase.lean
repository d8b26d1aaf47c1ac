import Mathlib.Tactic.Common
import PipeQuery.Arithmetic.Numeral
import PipeQuery.Unicode.Alphabetic
import PipeQuery.Unicode.Lowercase

/-! The lower case of texts of Latin letters. A text below 128 is lowered letter by letter, and a
text whose lower case has only Latin letters has only letters: the one other character with a
Latin image is the Kelvin sign. -/

namespace PipeQuery.Unicode

theorem lowerOf_of_lt {c : Char} (h : c.toNat < 128) : lowerOf c = latinLower [c] := by
  simp [lowerOf, h, latinLower]

theorem lowerAfter_of_lt {cs : List Char} (h : ∀ c ∈ cs, c.toNat < 128) (before : List Char) :
    lowerAfter before cs = latinLower cs := by
  induction cs generalizing before with
  | nil => rfl
  | cons c cs ih =>
    have hc := h c (by simp)
    have hsigma : c ≠ 'Σ' := by rintro rfl; exact absurd hc (by decide)
    rw [lowerAfter, if_neg hsigma, lowerOf_of_lt hc, ih fun d hd => h d (by simp [hd])]
    rfl

/-- The characters below 128 are lowered one by one. -/
theorem lowercase_of_lt {cs : List Char} (h : ∀ c ∈ cs, c.toNat < 128) :
    lowercase (String.ofList cs) = String.ofList (latinLower cs) := by
  rw [lowercase, String.toList_ofList, lowerAfter_of_lt h]

/-! ### Characters with a Latin image -/

theorem CaseRun.find?_eq_some {runs : List CaseRun} {n m : Nat} (h : find? runs n = some m) :
    ∃ r ∈ runs, r.first ≤ n ∧ n ≤ r.last ∧ m = r.image + (n - r.first) := by
  induction runs with
  | nil => cases h
  | cons r runs ih =>
    rw [find?] at h
    split_ifs at h with hfirst hlast hstep
    · cases h
      exact ⟨r, by simp, by omega, hlast, rfl⟩
    all_goals
      obtain ⟨s, hs, hn⟩ := ih h
      exact ⟨s, by simp [hs], hn⟩

/-- The only character from 128 on with an image below 128 is the Kelvin sign. -/
theorem eq_kelvin_of_find? {n m : Nat} (h : CaseRun.find? lowerRuns n = some m) (hm : m < 128) :
    n = 0x212A := by
  obtain ⟨r, hr, hfirst, hlast, rfl⟩ := CaseRun.find?_eq_some h
  have hall : ∀ r ∈ lowerRuns, 128 ≤ r.image ∨ r.first = 0x212A ∧ r.last = 0x212A := by
    decide +kernel
  rcases hall r hr with himage | ⟨hkelvin, hkelvin'⟩ <;> omega

theorem isLatinLetter_iff {c : Char} : isLatinLetter c = true ↔
    97 ≤ c.toNat ∧ c.toNat ≤ 122 ∨ 65 ≤ c.toNat ∧ c.toNat ≤ 90 := by
  simp only [isLatinLetter, Bool.or_eq_true, Bool.and_eq_true, decide_eq_true_eq, Char.le_def,
    UInt32.le_iff_toNat_le]
  exact Iff.rfl

theorem isAlphabetic_of_isLatinLetter {c : Char} (h : isLatinLetter c = true) :
    isAlphabetic c = true := by
  have hlt : c.toNat < 128 := by
    have := isLatinLetter_iff.mp h
    omega
  rw [isAlphabetic, if_pos hlt, h]

/-- A code point whose character is a Latin letter is that of the letter. -/
theorem toNat_ofNat_of_isLatinLetter {n : Nat} (h : isLatinLetter (Char.ofNat n) = true) :
    (Char.ofNat n).toNat = n := by
  by_cases hn : n.isValidChar
  · rw [Char.ofNat, dif_pos hn]
    rfl
  · have hzero : Char.ofNat n = '\x00' := by
      rw [Char.ofNat, dif_neg hn]
      rfl
    rw [hzero] at h
    exact absurd h (by decide)

theorem isAlphabetic_of_mem_lowerOf {c d : Char} (hd : d ∈ lowerOf c)
    (hlatin : isLatinLetter d = true) : isAlphabetic c = true := by
  unfold lowerOf at hd
  split_ifs at hd with hlt hcapital hdot
  · refine isAlphabetic_of_isLatinLetter ?_
    simp only [Bool.and_eq_true, decide_eq_true_eq] at hcapital
    simp [isLatinLetter, hcapital]
  · rw [List.mem_singleton.mp hd] at hlatin
    exact isAlphabetic_of_isLatinLetter hlatin
  · rw [hdot]
    decide
  · cases hfind : CaseRun.find? lowerRuns c.toNat with
    | none =>
      rw [hfind] at hd
      rw [List.mem_singleton.mp hd] at hlatin
      exact isAlphabetic_of_isLatinLetter hlatin
    | some m =>
      rw [hfind] at hd
      rw [List.mem_singleton.mp hd] at hlatin
      have hm : m < 128 := by
        have := isLatinLetter_iff.mp hlatin
        rw [toNat_ofNat_of_isLatinLetter hlatin] at this
        omega
      have hkelvin := eq_kelvin_of_find? hfind hm
      rw [isAlphabetic, if_neg hlt, hkelvin]
      decide +kernel

/-- A text whose lower case has only Latin letters has only letters. -/
theorem isAlphabetic_of_lowerAfter {cs before : List Char}
    (h : ∀ d ∈ lowerAfter before cs, isLatinLetter d = true) :
    ∀ c ∈ cs, isAlphabetic c = true := by
  induction cs generalizing before with
  | nil => simp
  | cons c cs ih =>
    simp only [lowerAfter, List.mem_append] at h
    have hc : isAlphabetic c = true := by
      by_cases hsigma : c = 'Σ'
      · rw [hsigma]
        decide
      · obtain ⟨d, hd⟩ : ∃ d, d ∈ lowerOf c := by
          unfold lowerOf
          split_ifs
          · exact ⟨_, List.mem_singleton_self _⟩
          · exact ⟨_, List.mem_singleton_self _⟩
          · exact ⟨_, List.mem_cons_self⟩
          · split <;> exact ⟨_, List.mem_singleton_self _⟩
        exact isAlphabetic_of_mem_lowerOf hd (h d (.inl (by rwa [if_neg hsigma])))
    intro e he
    rcases List.mem_cons.mp he with rfl | he
    · exact hc
    · exact ih (fun d hd => h d (.inr hd)) e he

end PipeQuery.Unicode
