import Mathlib.Tactic.Common
import PipeQuery.Unicode.Lowercase
import PipeQuery.Unicode.Numeric
import PipeQuery.Unicode.Ranges

/-! The case of Latin letters. A function of characters that takes each of the letters from A to Z to
the same as its small letter does not see their case. None of the character classes that decide how
a text is trimmed and lowered sees it, so a text gives the same after `String.toLower`, which lowers
these letters only, whatever stands around them. -/

namespace PipeQuery.Unicode

/-! ### Characters -/

/-- The capital letters from A to Z, by their places. -/
def capital (n : Nat) : Char := Char.ofNat (65 + n)

theorem toLower_eq_or_capital (c : Char) : c.toLower = c ∨ ∃ n < 26, c = capital n := by
  by_cases hcapital : 65 ≤ c.toNat ∧ c.toNat ≤ 90
  · refine .inr ⟨c.toNat - 65, by omega, ?_⟩
    rw [capital, Nat.add_sub_cancel' hcapital.1, Char.ofNat_toNat]
  · refine .inl (dif_neg fun hrange => hcapital ?_)
    simpa [UInt32.le_iff_toNat_le] using hrange

/-- What does not tell the 26 letters from their small ones sees the case of no character. -/
theorem apply_toLower {α : Type} {f : Char → α}
    (h : ∀ n < 26, f (capital n).toLower = f (capital n)) (c : Char) : f c.toLower = f c := by
  rcases toLower_eq_or_capital c with hself | ⟨n, hn, rfl⟩
  · rw [hself]
  · exact h n hn

theorem isBlank_toLower (c : Char) : isBlank c.toLower = isBlank c :=
  apply_toLower (by decide) c

theorem isDigit_toLower (c : Char) : isDigit c.toLower = isDigit c :=
  apply_toLower (by decide) c

/-- A letter has a case whichever it is. -/
theorem isCased_toLower (c : Char) : isCased c.toLower = isCased c :=
  apply_toLower (by decide) c

theorem isCaseIgnorable_toLower (c : Char) : isCaseIgnorable c.toLower = isCaseIgnorable c :=
  apply_toLower (by decide) c

theorem lowerOf_toLower (c : Char) : lowerOf c.toLower = lowerOf c :=
  apply_toLower (by decide) c

/-- A character that is no Latin letter is told from all others in either case. -/
theorem toLower_eq_iff {d : Char} (h : ∀ n < 26, (capital n).toLower ≠ d ∧ capital n ≠ d)
    (c : Char) : c.toLower = d ↔ c = d := by
  rcases toLower_eq_or_capital c with hself | ⟨n, hn, rfl⟩
  · rw [hself]
  · exact iff_of_false (h n hn).1 (h n hn).2

theorem toLower_of_isDigit {c : Char} (h : isDigit c = true) : c.toLower = c := by
  refine (toLower_eq_or_capital c).resolve_right ?_
  rintro ⟨n, hn, rfl⟩
  have hcapitals : ∀ n < 26, isDigit (capital n) = false := by decide
  rw [hcapitals n hn] at h
  cases h

/-! ### Texts -/

variable {p : Char → Bool}

theorem dropWhile_map_toLower (h : ∀ c, p c.toLower = p c) (cs : List Char) :
    (cs.map Char.toLower).dropWhile p = (cs.dropWhile p).map Char.toLower := by
  rw [List.dropWhile_map, show p ∘ Char.toLower = p from funext h]

theorem takeWhile_map_toLower (h : ∀ c, p c.toLower = p c) (cs : List Char) :
    (cs.map Char.toLower).takeWhile p = (cs.takeWhile p).map Char.toLower := by
  rw [List.takeWhile_map, show p ∘ Char.toLower = p from funext h]

theorem trim_map_toLower (cs : List Char) :
    trim (cs.map Char.toLower) = (trim cs).map Char.toLower := by
  simp only [trim, dropWhile_map_toLower isBlank_toLower, ← List.map_reverse]

theorem startsCased_map_toLower (cs : List Char) :
    startsCased (cs.map Char.toLower) = startsCased cs := by
  rw [startsCased, startsCased, dropWhile_map_toLower isCaseIgnorable_toLower]
  cases cs.dropWhile isCaseIgnorable with
  | nil => rfl
  | cons c _ => exact isCased_toLower c

/-- A sigma has the same form between letters of either case. -/
theorem sigmaBetween_map_toLower (before after : List Char) :
    sigmaBetween (before.map Char.toLower) (after.map Char.toLower) = sigmaBetween before after := by
  rw [sigmaBetween, startsCased_map_toLower, startsCased_map_toLower, sigmaBetween]

theorem lowerAfter_map_toLower (before cs : List Char) :
    lowerAfter (before.map Char.toLower) (cs.map Char.toLower) = lowerAfter before cs := by
  induction cs generalizing before with
  | nil => rfl
  | cons c cs ih =>
    have hsigma : c.toLower = 'Σ' ↔ c = 'Σ' := toLower_eq_iff (by decide) c
    have hbehind := ih (c :: before)
    rw [List.map_cons] at hbehind
    rw [List.map_cons, lowerAfter, lowerAfter, hbehind, sigmaBetween_map_toLower, lowerOf_toLower]
    simp only [hsigma]

theorem toList_toLower (text : String) : text.toLower.toList = text.toList.map Char.toLower :=
  String.toList_map

theorem toLower_eq_toLower_iff {s t : String} :
    s.toLower = t.toLower ↔ s.toList.map Char.toLower = t.toList.map Char.toLower := by
  rw [← String.toList_inj, toList_toLower, toList_toLower]

/-- The lower case of a text is that of the text with small Latin letters. -/
theorem lowercase_toLower (text : String) : lowercase text.toLower = lowercase text := by
  rw [lowercase, toList_toLower]
  exact congrArg String.ofList (lowerAfter_map_toLower [] text.toList)

end PipeQuery.Unicode
