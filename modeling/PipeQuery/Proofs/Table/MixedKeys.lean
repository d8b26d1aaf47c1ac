import PipeQuery.Proofs.Table.KeyOrder
import PipeQuery.Table.Pipeline

/-! Where the order of keys is consistent. Two keys always compare the same either way round, but a
decimal is compared with a binary number through a conversion that may take different decimals to
one number, or decimals of one value to different numbers. The order is transitive on a set of cells
exactly when each binary number among them lies between the decimals as it does between their
values. -/

namespace PipeQuery

/-- Where the binary number is neither below `x` nor above `y`, the value of `x` is at most that of
`y`, and equal to it only if the number is neither above `x` nor below `y` as well. -/
def Binary64.Parts (z : Binary64) (x y : Decimal) : Prop :=
  x.toBinary64.rank ≤ z.rank → z.rank ≤ y.toBinary64.rank →
    x.value ≤ y.value ∧
      (x.value = y.value ↔ x.toBinary64.rank = z.rank ∧ z.rank = y.toBinary64.rank)

/-! ### Numbers -/

namespace CellNumber

variable {x y : Decimal} {z : Binary64}

theorem order_exact (x y : Decimal) :
    (exact x).order (exact y) = cmp x.value y.value := x.order_eq_cmp y

theorem order_approximate_right (a : CellNumber) (z : Binary64) :
    a.order (approximate z) = cmp a.toBinary64.rank z.rank := by
  cases a <;> rfl

theorem order_approximate_left (z : Binary64) (a : CellNumber) :
    (approximate z).order a = cmp z.rank a.toBinary64.rank := by
  cases a <;> rfl

theorem order_swap (a b : CellNumber) : a.order b = (b.order a).swap := by
  cases a with
  | approximate z => rw [order_approximate_left, order_approximate_right, cmp_swap]
  | exact x =>
    cases b with
    | approximate z => rw [order_approximate_left, order_approximate_right, cmp_swap]
    | exact y => rw [order_exact, order_exact, cmp_swap]

theorem exact_le_exact : (exact x).order (exact y) ≠ .gt ↔ x.value ≤ y.value := by
  rw [order_exact, (cmp_compares _ _).ne_gt]

theorem le_approximate {a : CellNumber} :
    a.order (approximate z) ≠ .gt ↔ a.toBinary64.rank ≤ z.rank := by
  rw [order_approximate_right, (cmp_compares _ _).ne_gt]

theorem approximate_le {a : CellNumber} :
    (approximate z).order a ≠ .gt ↔ z.rank ≤ a.toBinary64.rank := by
  rw [order_approximate_left, (cmp_compares _ _).ne_gt]

/-- The only way for three numbers to be out of order is that two of them are decimals which the
third one does not part. -/
theorem order_trans {a b c : CellNumber}
    (hparts : ∀ x y z, exact x ∈ [a, b, c] → exact y ∈ [a, b, c] → approximate z ∈ [a, b, c] →
      z.Parts x y)
    (hab : a.order b ≠ .gt) (hbc : b.order c ≠ .gt) : a.order c ≠ .gt := by
  match a, b, c with
  | .exact x, .exact y, .exact w =>
    rw [exact_le_exact] at hab hbc ⊢
    exact hab.trans hbc
  | .exact x, .approximate z, .exact y =>
    rw [le_approximate] at hab
    rw [approximate_le] at hbc
    exact exact_le_exact.mpr (hparts x y z (by simp) (by simp) (by simp) hab hbc).1
  | .exact x, .exact y, .approximate z =>
    rw [exact_le_exact] at hab
    rw [le_approximate] at hbc ⊢
    -- If `z` were below `x` it would part `y` from `x`, and the two would have one value.
    by_contra hlt
    obtain ⟨hyx, hiff⟩ := hparts y x z (by simp) (by simp) (by simp) hbc (le_of_not_ge hlt)
    exact hlt (hiff.mp (hyx.antisymm hab)).2.ge
  | .approximate z, .exact x, .exact y =>
    rw [approximate_le] at hab ⊢
    rw [exact_le_exact] at hbc
    by_contra hlt
    obtain ⟨hyx, hiff⟩ := hparts y x z (by simp) (by simp) (by simp) (le_of_not_ge hlt) hab
    exact hlt (hiff.mp (hyx.antisymm hbc)).1.ge
  | .approximate w, b, .approximate z =>
    rw [approximate_le] at hab
    rw [le_approximate] at hbc ⊢
    exact hab.trans hbc
  | a, .approximate w, .approximate z =>
    rw [le_approximate] at hab hbc ⊢
    exact hab.trans hbc
  | .approximate w, .approximate z, c =>
    rw [approximate_le] at hab hbc ⊢
    exact hab.trans hbc

/-- A binary number that does not part two decimals is out of order with them. -/
theorem parts_of_order_trans (numbers : CellNumber → Prop)
    (htrans : ∀ a b c, numbers a → numbers b → numbers c →
      a.order b ≠ .gt → b.order c ≠ .gt → a.order c ≠ .gt)
    (hx : numbers (exact x)) (hy : numbers (exact y)) (hz : numbers (approximate z)) :
    z.Parts x y := by
  intro hxz hzy
  have hle : x.value ≤ y.value := exact_le_exact.mp
    (htrans _ _ _ hx hz hy (le_approximate.mpr hxz) (approximate_le.mpr hzy))
  refine ⟨hle, fun heq => ⟨hxz.antisymm ?_, hzy.antisymm ?_⟩, fun heq => hle.antisymm ?_⟩
  · exact approximate_le.mp
      (htrans _ _ _ hz hy hx (approximate_le.mpr hzy) (exact_le_exact.mpr heq.ge))
  · exact le_approximate.mp
      (htrans _ _ _ hy hx hz (exact_le_exact.mpr heq.ge) (le_approximate.mpr hxz))
  · exact exact_le_exact.mp
      (htrans _ _ _ hy hz hx (le_approximate.mpr heq.2.ge) (approximate_le.mpr heq.1.ge))

end CellNumber

/-! ### Keys -/

namespace SortKey

theorem order_swap (a b : SortKey) : a.order b = (b.order a).swap := by
  cases a with
  | number x =>
    cases b with
    | number y => exact CellNumber.order_swap x y
    | text t => rfl
  | text s =>
    cases b with
    | number y => rfl
    | text t => exact textOrder_swap s.toList t.toList

theorem order_self (a : SortKey) : a.order a = .eq := Ordering.eq_eq_of_eq_swap (a.order_swap a)

/-- Texts come behind all numbers and are in order among themselves. -/
theorem order_trans {a b c : SortKey}
    (hnumbers : ∀ x y z, a = number x → b = number y → c = number z →
      x.order y ≠ .gt → y.order z ≠ .gt → x.order z ≠ .gt)
    (hab : a.order b ≠ .gt) (hbc : b.order c ≠ .gt) : a.order c ≠ .gt := by
  match a, b, c with
  | .number x, .number y, .number z => exact hnumbers x y z rfl rfl rfl hab hbc
  | .number _, _, .text _ => exact Ordering.noConfusion
  | .text _, .number _, _ => exact absurd rfl hab
  | _, .text _, .number _ => exact absurd rfl hbc
  | .text s, .text t, .text u =>
    rw [order, (textOrder_compares _ _).ne_gt] at hab hbc ⊢
    exact hab.trans hbc

/-- The order never contradicts itself on two cells. On three it may, and it is transitive on a set
of cells exactly when each binary number in the set parts any two decimals in it. -/
theorem order_isPreorder_iff (cells : Set String) :
    (∀ a, (ofCell a).order (ofCell a) = .eq) ∧
    (∀ a b, (ofCell a).order (ofCell b) = ((ofCell b).order (ofCell a)).swap) ∧
    ((∀ a ∈ cells, ∀ b ∈ cells, ∀ c ∈ cells, (ofCell a).order (ofCell b) ≠ .gt →
        (ofCell b).order (ofCell c) ≠ .gt → (ofCell a).order (ofCell c) ≠ .gt) ↔
      ∀ a ∈ cells, ∀ b ∈ cells, ∀ c ∈ cells, ∀ x y z, ofCell a = .number (.exact x) →
        ofCell b = .number (.approximate z) → ofCell c = .number (.exact y) → z.Parts x y) := by
  refine ⟨fun a => order_self _, fun a b => order_swap _ _, fun htrans => ?_, fun hparts => ?_⟩
  · intro a ha b hb c hc x y z hx hz hy
    refine CellNumber.parts_of_order_trans (fun n => ∃ d ∈ cells, ofCell d = .number n) ?_
      ⟨a, ha, hx⟩ ⟨c, hc, hy⟩ ⟨b, hb, hz⟩
    rintro m n k ⟨d, hd, hm⟩ ⟨e, he, hn⟩ ⟨f, hf, hk⟩
    have hdef := htrans d hd e he f hf
    rwa [hm, hn, hk] at hdef
  · intro a ha b hb c hc
    refine order_trans fun m n k hm hn hk => CellNumber.order_trans fun x y z hx hy hz => ?_
    have hcell (l : CellNumber) (hl : l ∈ [m, n, k]) : ∃ d ∈ cells, ofCell d = .number l := by
      simp only [List.mem_cons, List.not_mem_nil, or_false] at hl
      rcases hl with rfl | rfl | rfl
      · exact ⟨a, ha, hm⟩
      · exact ⟨b, hb, hn⟩
      · exact ⟨c, hc, hk⟩
    obtain ⟨d, hd, hd'⟩ := hcell _ hx
    obtain ⟨e, he, he'⟩ := hcell _ hz
    obtain ⟨f, hf, hf'⟩ := hcell _ hy
    exact hparts d hd e he f hf x y z hd' he' hf'

/-- The largest decimal, the whole number behind it and the one before it. -/
def largeNumbers : Table :=
  .ofRows ["n"] [["79228162514264337593543950335"], ["79228162514264337593543950336"],
    ["79228162514264337593543950334"]]

/-- The number in the middle is read as a binary one, to which both decimals are converted. So it is
equal to each of two that are not equal, and sorting leaves the larger one of these in front. -/
theorem order_not_transitive :
    (ofCell "79228162514264337593543950335").order (ofCell "79228162514264337593543950336") = .eq ∧
    (ofCell "79228162514264337593543950336").order (ofCell "79228162514264337593543950334") = .eq ∧
    (ofCell "79228162514264337593543950335").order (ofCell "79228162514264337593543950334") = .gt ∧
    largeNumbers.sort "n" true = largeNumbers := by
  decide +kernel

end SortKey

end PipeQuery
