import Mathlib.Data.List.Lex
import Mathlib.Data.Sum.Order
import PipeQuery.Proofs.Arithmetic.Decimals
import PipeQuery.Table.Sorting

/-! The order of sort keys. Exact decimals go by their values and texts by the code points of their
characters, numbers first, so keys without binary numbers are compared by their places in a
linear order. -/

namespace PipeQuery

/-! ### Texts -/

/-- Texts are compared as lists of code points. -/
theorem textOrder_compares (s t : List Char) :
    (textOrder s t).Compares (s.map Char.toNat) (t.map Char.toNat) := by
  induction s generalizing t with
  | nil => cases t <;> simp [textOrder, Ordering.Compares]
  | cons c cs ih =>
    cases t with
    | nil => simp [textOrder, Ordering.Compares]
    | cons d ds =>
      rw [textOrder]
      split_ifs with hlt hgt
      · exact List.cons_lt_cons_iff.mpr (.inl hlt)
      · exact List.cons_lt_cons_iff.mpr (.inl hgt)
      · have hhead : c.toNat = d.toNat := by omega
        have htail := ih ds
        rw [List.map_cons, List.map_cons, hhead]
        cases horder : textOrder cs ds <;> rw [horder] at htail <;>
          simpa [Ordering.Compares] using htail

theorem textOrder_swap (s t : List Char) : textOrder s t = (textOrder t s).swap :=
  (textOrder_compares s t).inj (textOrder_compares t s).swap

/-! ### Keys -/

namespace SortKey

/-- The key is not a binary number. -/
def IsExact (key : SortKey) : Prop := ∀ x, key ≠ .number (.approximate x)

instance : DecidablePred IsExact
  | .number (.exact _) => .isTrue fun _ h => by cases h
  | .number (.approximate x) => .isFalse fun h => h x rfl
  | .text _ => .isTrue fun _ h => by cases h

theorem IsExact.eq_number_or_text {key : SortKey} (h : key.IsExact) :
    (∃ x, key = .number (.exact x)) ∨ ∃ s, key = .text s := by
  cases key with
  | text s => exact .inr ⟨s, rfl⟩
  | number x =>
    cases x with
    | exact x => exact .inl ⟨x, rfl⟩
    | approximate x => exact absurd rfl (h x)

/-- The place of a key: numbers by value, then texts by code points. Binary numbers have no place
among the others, and nothing is said about theirs. -/
def place : SortKey → ℚ ⊕ₗ List Nat
  | .number (.exact x) => toLex (.inl x.value)
  | .number (.approximate _) => toLex (.inl 0)
  | .text s => toLex (.inr (s.toList.map Char.toNat))

/-- Exact keys are compared by their places. -/
theorem order_eq_lt_iff {a b : SortKey} (ha : a.IsExact) (hb : b.IsExact) :
    a.order b = .lt ↔ a.place < b.place := by
  obtain ⟨x, rfl⟩ | ⟨s, rfl⟩ := ha.eq_number_or_text <;>
    obtain ⟨y, rfl⟩ | ⟨t, rfl⟩ := hb.eq_number_or_text
  · rw [place, place, Sum.Lex.inl_lt_inl_iff, ← cmp_eq_lt_iff, ← Decimal.order_eq_cmp]
    rfl
  · rw [place, place]
    exact iff_of_true rfl (Sum.Lex.inl_lt_inr _ _)
  · rw [place, place]
    exact iff_of_false Ordering.noConfusion Sum.Lex.not_inr_lt_inl
  · rw [place, place, Sum.Lex.inr_lt_inr_iff]
    exact (textOrder_compares s.toList t.toList).eq_lt

end SortKey

end PipeQuery
