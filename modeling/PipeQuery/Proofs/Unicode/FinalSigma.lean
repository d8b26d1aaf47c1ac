import Mathlib.Data.List.TakeWhile
import Mathlib.Tactic.Common
import PipeQuery.Unicode.Lowercase

/-! The lower case of a part of a text. It is that of the part on its own but for capital sigmas,
whose form depends on the cased characters around them. What stands around the part can only change
its first or its last character that counts: a sigma with nothing cased behind it in the part, where
something cased comes before, and a final sigma, where something cased follows. -/

namespace PipeQuery.Unicode

variable {before after cs xs ys : List Char}

/-- The lower case of `cs` between the characters `before`, nearest first, and `after`. -/
def lowerBetween (before : List Char) : List Char → List Char → List Char
  | [], _ => []
  | c :: cs, after =>
    (if c = 'Σ' then [sigmaBetween before (cs ++ after)] else lowerOf c) ++
      lowerBetween (c :: before) cs after

theorem lowerAfter_append (before xs ys : List Char) :
    lowerAfter before (xs ++ ys) =
      lowerBetween before xs ys ++ lowerAfter (xs.reverse ++ before) ys := by
  induction xs generalizing before with
  | nil => rfl
  | cons c xs ih => simp [lowerAfter, lowerBetween, ih]

theorem lowerBetween_nil (before cs : List Char) :
    lowerBetween before cs [] = lowerAfter before cs := by
  have h := lowerAfter_append before cs []
  rwa [List.append_nil, lowerAfter, List.append_nil, eq_comm] at h

/-- What stands around a text does not change the length of its lower case. -/
theorem length_lowerBetween (cs before after before' after' : List Char) :
    (lowerBetween before cs after).length = (lowerBetween before' cs after').length := by
  induction cs generalizing before before' with
  | nil => rfl
  | cons c cs ih =>
    rw [lowerBetween, lowerBetween, List.length_append, List.length_append,
      ih (c :: before) (c :: before')]
    split_ifs <;> rfl

theorem forall_split_cons {c d : Char} {P : List Char → List Char → Prop} :
    (∀ xs ys, c :: cs = xs ++ d :: ys → P xs ys) ↔
      (c = d → P [] cs) ∧ ∀ xs ys, cs = xs ++ d :: ys → P (c :: xs) ys := by
  constructor
  · refine fun h => ⟨?_, fun xs ys hcs => h _ _ (congrArg (c :: ·) hcs)⟩
    rintro rfl
    exact h [] cs rfl
  · rintro ⟨hhead, htail⟩ xs ys hcs
    cases xs with
    | nil =>
      obtain ⟨rfl, rfl⟩ := List.cons.inj hcs
      exact hhead rfl
    | cons x xs =>
      obtain ⟨rfl, htl⟩ := List.cons.inj hcs
      exact htail xs ys htl

/-- The lower case is the same in two places if it is so for each capital sigma. -/
theorem lowerBetween_eq_iff {before' after' : List Char} :
    lowerBetween before cs after = lowerBetween before' cs after' ↔
      ∀ xs ys, cs = xs ++ 'Σ' :: ys →
        sigmaBetween (xs.reverse ++ before) (ys ++ after) =
          sigmaBetween (xs.reverse ++ before') (ys ++ after') := by
  induction cs generalizing before before' with
  | nil => simp [lowerBetween]
  | cons c cs ih =>
    rw [forall_split_cons, lowerBetween, lowerBetween]
    simp only [List.reverse_cons, List.reverse_nil, List.append_assoc, List.singleton_append,
      List.nil_append, ← ih]
    split_ifs with hc
    · simp [hc]
    · simp [hc]

/-- Each capital sigma of `cs` has the same form between `before` and `after` as without them. -/
def KeepsSigmas (before cs after : List Char) : Prop :=
  ∀ xs ys, cs = xs ++ 'Σ' :: ys →
    sigmaBetween (xs.reverse ++ before) (ys ++ after) = sigmaBetween xs.reverse ys

theorem lowerBetween_eq_lowerAfter_iff :
    lowerBetween before cs after = lowerAfter [] cs ↔ KeepsSigmas before cs after := by
  simp only [← lowerBetween_nil, lowerBetween_eq_iff, List.append_nil, KeepsSigmas]

/-! ### Sigmas at the edges -/

theorem startsCased_eq_false (h : ∀ x ∈ xs, isCaseIgnorable x = true) : startsCased xs = false := by
  rw [startsCased, List.dropWhile_eq_nil_iff.mpr h]

theorem startsCased_append (h : ∀ x ∈ xs, isCaseIgnorable x = true) (ys : List Char) :
    startsCased (xs ++ ys) = startsCased ys := by
  rw [startsCased, List.dropWhile_append_of_pos h, startsCased]

/-- The first character that counts hides all behind it. -/
theorem startsCased_append_of_not (h : ¬∀ x ∈ xs, isCaseIgnorable x = true) (ys : List Char) :
    startsCased (xs ++ ys) = startsCased xs := by
  rw [← List.dropWhile_eq_nil_iff] at h
  rw [startsCased, startsCased, List.dropWhile_append, if_neg (by simpa using h)]
  obtain ⟨c, cs, hcs⟩ := List.exists_cons_of_ne_nil h
  rw [hcs, List.cons_append]

/-- The first character of `cs` that is not case-ignorable is a capital sigma, and the next one is
not cased. -/
def StartsInSigma (cs : List Char) : Prop :=
  ∃ xs ys, cs = xs ++ 'Σ' :: ys ∧ (∀ x ∈ xs, isCaseIgnorable x = true) ∧ startsCased ys = false

/-- The last character of `cs` that is not case-ignorable is a capital sigma, and the one before is
cased. -/
def EndsInSigma (cs : List Char) : Prop :=
  ∃ xs ys, cs = xs ++ 'Σ' :: ys ∧ startsCased xs.reverse = true ∧ ∀ y ∈ ys, isCaseIgnorable y = true

theorem sigmaBetween_eq_iff {before' after' : List Char} :
    sigmaBetween before after = sigmaBetween before' after' ↔
      (startsCased before = true ∧ startsCased after = false ↔
        startsCased before' = true ∧ startsCased after' = false) := by
  have hne : 'ς' ≠ 'σ' := by decide
  rw [sigmaBetween, sigmaBetween]
  cases startsCased before <;> cases startsCased after <;> cases startsCased before' <;>
    cases startsCased after' <;> simp [hne, hne.symm]

/-- What follows a text changes its sigmas only if it ends in one and something cased comes next. -/
theorem keepsSigmas_after_iff :
    KeepsSigmas [] cs after ↔ ¬(EndsInSigma cs ∧ startsCased after = true) := by
  simp only [KeepsSigmas, List.append_nil, sigmaBetween_eq_iff]
  constructor
  · rintro h ⟨⟨xs, ys, hcs, hxs, hys⟩, hafter⟩
    have := h xs ys hcs
    rw [startsCased_append hys, startsCased_eq_false hys, hafter, hxs] at this
    simp at this
  · intro h xs ys hcs
    by_cases hys : ∀ y ∈ ys, isCaseIgnorable y = true
    · rw [startsCased_append hys, startsCased_eq_false hys]
      refine and_congr_right fun hxs => ?_
      have hafter : ¬startsCased after = true := fun hafter => h ⟨⟨xs, ys, hcs, hxs, hys⟩, hafter⟩
      simp [hafter]
    · rw [startsCased_append_of_not hys]

/-- What precedes a text changes its sigmas only if it starts in one and is cased itself. -/
theorem keepsSigmas_before_iff :
    KeepsSigmas before cs [] ↔ ¬(StartsInSigma cs ∧ startsCased before = true) := by
  simp only [KeepsSigmas, List.append_nil, sigmaBetween_eq_iff]
  constructor
  · rintro h ⟨⟨xs, ys, hcs, hxs, hys⟩, hbefore⟩
    have hrev : ∀ x ∈ xs.reverse, isCaseIgnorable x = true := by simpa using hxs
    have := h xs ys hcs
    rw [startsCased_append hrev, startsCased_eq_false hrev, hbefore, hys] at this
    simp at this
  · intro h xs ys hcs
    by_cases hxs : ∀ x ∈ xs.reverse, isCaseIgnorable x = true
    · rw [startsCased_append hxs, startsCased_eq_false hxs]
      have hys : ¬(startsCased before = true ∧ startsCased ys = false) := fun hys =>
        h ⟨⟨xs, ys, hcs, by simpa using hxs, hys.2⟩, hys.1⟩
      simpa using hys
    · rw [startsCased_append_of_not hxs]

/-- Without a sigma at its edges a text is lowered alike everywhere. -/
theorem keepsSigmas_of_not (hstart : ¬StartsInSigma cs) (hend : ¬EndsInSigma cs)
    (before after : List Char) : KeepsSigmas before cs after := by
  intro xs ys hcs
  by_cases hys : ∀ y ∈ ys, isCaseIgnorable y = true
  · -- The sigma is the last character that counts, so one that is not cased counts before it.
    have hxs : ¬startsCased xs.reverse = true := fun hxs => hend ⟨xs, ys, hcs, hxs, hys⟩
    have hcount : ¬∀ x ∈ xs.reverse, isCaseIgnorable x = true := fun hall =>
      hstart ⟨xs, ys, hcs, by simpa using hall, startsCased_eq_false hys⟩
    rw [sigmaBetween_eq_iff, startsCased_append_of_not hcount]
    simp [hxs]
  · have hafter : sigmaBetween (xs.reverse ++ before) (ys ++ after) =
        sigmaBetween (xs.reverse ++ before) ys := by
      rw [sigmaBetween, sigmaBetween, startsCased_append_of_not hys]
    have hbefore : KeepsSigmas before cs [] :=
      keepsSigmas_before_iff.mpr fun h => hstart h.1
    have hsigma := hbefore xs ys hcs
    rw [List.append_nil] at hsigma
    exact hafter.trans hsigma

end PipeQuery.Unicode
