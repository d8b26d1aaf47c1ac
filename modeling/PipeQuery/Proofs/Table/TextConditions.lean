import PipeQuery.Proofs.Unicode.FinalSigma
import PipeQuery.Table.Condition

/-! Conditions on texts. Cell and value are lowered apart, so a value that stands in a cell is found
there if each of its capital sigmas has the same form in both. At the start or the end of a cell
this is also necessary, and the values that are found in every cell that holds them are those
without a sigma at their edges. -/

namespace PipeQuery

variable {α : Type} {xs ys zs : List α} {x : α}

theorem occursIn_iff {pattern text : List Char} :
    occursIn pattern text = true ↔ pattern <:+: text := by
  induction text with
  | nil => simp [occursIn]
  | cons c text ih =>
    rw [occursIn, Bool.or_eq_true, ih, List.isPrefixOf_iff_prefix, List.infix_cons_iff]

/-! ### Parts of one length -/

theorem prefix_append_iff_eq (h : xs.length = ys.length) : xs <+: ys ++ zs ↔ xs = ys := by
  constructor
  · intro hfront
    have hle := List.prefix_of_prefix_length_le hfront (List.prefix_append ys zs) h.le
    exact hle.eq_of_length h
  · rintro rfl
    exact List.prefix_append _ _

theorem suffix_append_iff_eq (h : xs.length = ys.length) : xs <:+ zs ++ ys ↔ xs = ys := by
  constructor
  · intro hback
    have hle := List.suffix_of_suffix_length_le hback (List.suffix_append zs ys) h.le
    exact hle.eq_of_length h
  · rintro rfl
    exact List.suffix_append _ _

theorem head?_of_infix_cons (h : xs <:+: x :: ys) (hlen : xs.length = ys.length) (hne : xs ≠ ys) :
    xs.head? = some x := by
  rcases List.infix_cons_iff.mp h with hfront | hinner
  · rcases List.prefix_cons_iff.mp hfront with rfl | ⟨zs, rfl, -⟩
    · exact absurd (List.eq_nil_of_length_eq_zero hlen.symm).symm hne
    · rfl
  · exact absurd (hinner.eq_of_length hlen) hne

theorem getLast?_of_infix_concat (h : xs <:+: ys ++ [x]) (hlen : xs.length = ys.length)
    (hne : xs ≠ ys) : xs.getLast? = some x := by
  rcases List.infix_concat_iff.mp h with hback | hinner
  · rcases List.suffix_concat_iff.mp hback with rfl | ⟨zs, rfl, -⟩
    · exact absurd (List.eq_nil_of_length_eq_zero hlen.symm).symm hne
    · exact List.getLast?_concat
  · exact absurd (hinner.eq_of_length hlen) hne

namespace Unicode

theorem toList_lowercase (text : String) :
    (lowercase text).toList = lowerAfter [] text.toList := String.toList_ofList

end Unicode

namespace Comparator

open Unicode

variable {value : String}

theorem test_contains_iff {cell value : String} :
    test cell .contains value = true ↔
      lowerAfter [] value.toList <:+: lowerAfter [] cell.toList := by
  rw [← toList_lowercase, ← toList_lowercase, ← occursIn_iff]
  rfl

theorem test_startsWith_iff {cell value : String} :
    test cell .startsWith value = true ↔
      lowerAfter [] value.toList <+: lowerAfter [] cell.toList := by
  rw [← toList_lowercase, ← toList_lowercase, ← List.isPrefixOf_iff_prefix]
  rfl

theorem test_endsWith_iff {cell value : String} :
    test cell .endsWith value = true ↔
      lowerAfter [] value.toList <:+ lowerAfter [] cell.toList := by
  rw [← toList_lowercase, ← toList_lowercase, ← List.isSuffixOf_iff_suffix]
  rfl

/-- A value is found where its sigmas have the forms that they have on their own. -/
theorem test_contains_of_keepsSigmas {before after : String}
    (h : KeepsSigmas before.toList.reverse value.toList after.toList) :
    test (before ++ value ++ after) .contains value = true := by
  rw [test_contains_iff, ← lowerBetween_eq_lowerAfter_iff.mpr h, String.toList_append,
    String.toList_append, List.append_assoc, lowerAfter_append, lowerAfter_append, List.append_nil,
    ← List.append_assoc]
  exact List.infix_append _ _ _

theorem test_startsWith_append (value after : String) :
    test (value ++ after) .startsWith value = true ↔
      ¬(EndsInSigma value.toList ∧ startsCased after.toList = true) := by
  rw [test_startsWith_iff, String.toList_append, lowerAfter_append, ← keepsSigmas_after_iff,
    ← lowerBetween_eq_lowerAfter_iff, ← lowerBetween_nil,
    prefix_append_iff_eq (length_lowerBetween _ _ _ _ _), eq_comm]

theorem test_endsWith_append (before value : String) :
    test (before ++ value) .endsWith value = true ↔
      ¬(StartsInSigma value.toList ∧ startsCased before.toList.reverse = true) := by
  rw [test_endsWith_iff, String.toList_append, lowerAfter_append, ← keepsSigmas_before_iff,
    ← lowerBetween_eq_lowerAfter_iff, ← lowerBetween_nil, ← lowerBetween_nil, List.append_nil,
    suffix_append_iff_eq (length_lowerBetween _ _ _ _ _), eq_comm]

/-- A letter that is its own lower case. -/
structure IsSmallLetter (c : Char) : Prop where
  ne_sigma : c ≠ 'Σ'
  lowerOf_eq : lowerOf c = [c]
  startsCased_eq : startsCased [c] = true

theorem isSmallLetter_a : IsSmallLetter 'a' := ⟨by decide, by decide, by decide +kernel⟩

theorem isSmallLetter_b : IsSmallLetter 'b' := ⟨by decide, by decide, by decide +kernel⟩

/-- Behind a small letter, a value that starts in a sigma is lowered to another text, and that is
found only where it starts with the letter. -/
theorem head?_of_startsInSigma {c : Char} (hc : IsSmallLetter c)
    (hsigma : StartsInSigma value.toList)
    (h : test (String.ofList [c] ++ value) .contains value = true) :
    (lowerAfter [] value.toList).head? = some c := by
  rw [test_contains_iff, String.toList_append, String.toList_ofList, List.singleton_append,
    lowerAfter, if_neg hc.ne_sigma, hc.lowerOf_eq, List.singleton_append,
    ← lowerBetween_nil [c]] at h
  have hne : ¬KeepsSigmas [c] value.toList [] := fun hkeeps =>
    keepsSigmas_before_iff.mp hkeeps ⟨hsigma, hc.startsCased_eq⟩
  rw [← lowerBetween_eq_lowerAfter_iff] at hne
  refine head?_of_infix_cons h ?_ (Ne.symm hne)
  rw [← lowerBetween_nil]
  exact length_lowerBetween _ _ _ _ _

/-- The same at the end of the value. -/
theorem getLast?_of_endsInSigma {c : Char} (hc : IsSmallLetter c)
    (hsigma : EndsInSigma value.toList)
    (h : test (value ++ String.ofList [c]) .contains value = true) :
    (lowerAfter [] value.toList).getLast? = some c := by
  rw [test_contains_iff, String.toList_append, String.toList_ofList, lowerAfter_append, lowerAfter,
    if_neg hc.ne_sigma, hc.lowerOf_eq, lowerAfter, List.append_nil] at h
  have hne : ¬KeepsSigmas [] value.toList [c] := fun hkeeps =>
    keepsSigmas_after_iff.mp hkeeps ⟨hsigma, hc.startsCased_eq⟩
  rw [← lowerBetween_eq_lowerAfter_iff] at hne
  refine getLast?_of_infix_concat h ?_ (Ne.symm hne)
  rw [← lowerBetween_nil]
  exact length_lowerBetween _ _ _ _ _

/-- The values that are found in each cell that holds them. -/
theorem forall_test_contains_iff :
    (∀ before after : String, test (before ++ value ++ after) .contains value = true) ↔
      ¬StartsInSigma value.toList ∧ ¬EndsInSigma value.toList := by
  refine ⟨fun h => ⟨fun hstart => ?_, fun hend => ?_⟩, fun h before after =>
    test_contains_of_keepsSigmas (keepsSigmas_of_not h.1 h.2 _ _)⟩
  · have hhead {c : Char} (hc : IsSmallLetter c) :=
      head?_of_startsInSigma hc hstart (by simpa using h (String.ofList [c]) "")
    exact absurd ((hhead isSmallLetter_a).symm.trans (hhead isSmallLetter_b)) (by decide)
  · have hlast {c : Char} (hc : IsSmallLetter c) :=
      getLast?_of_endsInSigma hc hend (by simpa using h "" (String.ofList [c]))
    exact absurd ((hlast isSmallLetter_a).symm.trans (hlast isSmallLetter_b)) (by decide)

/-- A value that stands in a cell is found there if its sigmas have the same forms in both. At the
start and at the end of a cell a sigma at the other edge of the value is all that can hide it, and
where a sigma stands at neither edge the value is found in all cells that hold it. -/
theorem test_verbatim (value : String) :
    (∀ before after : String,
      KeepsSigmas before.toList.reverse value.toList after.toList →
        test (before ++ value ++ after) .contains value = true ∧
        test (before ++ value ++ after) .has value = true) ∧
    (∀ after : String, test (value ++ after) .startsWith value = true ↔
      ¬(EndsInSigma value.toList ∧ startsCased after.toList = true)) ∧
    (∀ before : String, test (before ++ value) .endsWith value = true ↔
      ¬(StartsInSigma value.toList ∧ startsCased before.toList.reverse = true)) ∧
    ((∀ before after : String, test (before ++ value ++ after) .contains value = true ∧
        test (before ++ value ++ after) .has value = true) ↔
      ¬StartsInSigma value.toList ∧ ¬EndsInSigma value.toList) := by
  have hhas (cell : String) : test cell .has value = test cell .contains value := rfl
  simp only [hhas, and_self]
  exact ⟨fun before after h => test_contains_of_keepsSigmas h,
    fun after => test_startsWith_append value after,
    fun before => test_endsWith_append before value, forall_test_contains_iff⟩

/-- The last letter of the word is a final sigma in the cell as well. -/
theorem test_verbatim_word :
    KeepsSigmas "ΝΕΑ ".toList.reverse "ΟΔΟΣ".toList " 7".toList ∧
    test "ΝΕΑ ΟΔΟΣ 7" .contains "ΟΔΟΣ" = true ∧ test "ΝΕΑ ΟΔΟΣ 7" .has "ΟΔΟΣ" = true := by
  have hkeeps : KeepsSigmas "ΝΕΑ ".toList.reverse "ΟΔΟΣ".toList " 7".toList :=
    lowerBetween_eq_lowerAfter_iff.mp (by decide +kernel)
  exact ⟨hkeeps, (test_verbatim "ΟΔΟΣ").1 "ΝΕΑ " " 7" hkeeps⟩

/-- Values that stand in a cell and are not found there: alone they end in the final form of the
sigma or lack it, and the cell has the other form in the same place. -/
theorem test_verbatim_missed :
    ("ΚΟΣΜΟΣ" = "ΚΟΣ" ++ "ΜΟΣ" ∧ test "ΚΟΣΜΟΣ" .contains "ΚΟΣ" = false ∧
      test "ΚΟΣΜΟΣ" .has "ΚΟΣ" = false ∧ test "ΚΟΣΜΟΣ" .startsWith "ΚΟΣ" = false) ∧
    "ΛΟΓΟΣ" = "ΛΟΓΟ" ++ "Σ" ∧ test "ΛΟΓΟΣ" .contains "Σ" = false ∧
      test "ΛΟΓΟΣ" .endsWith "Σ" = false := by
  decide +kernel

end Comparator

end PipeQuery
