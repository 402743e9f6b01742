import SwapPayout.Proofs.Quantity.Rounding

/-!
# The order of quantities

Quantities compare as the numbers that they are (`compare_eq_compare_value`), and a number is at
most one quantity (`value_injective`): the normal form leaves a number one mantissa and one
exponent, and zero no sign. So the order of quantities is total, two quantities compare as equal
exactly when they are one (`order_of_numbers`), and sorting puts numbers in order (`sort_ordered`).
-/

namespace SwapPayout.Quantity

/-- Sixteen digits are below zero exactly when their sign says so. -/
theorem value_neg_iff_of_isFull {q : Quantity} (full : q.isFull) :
    q.value < 0 ↔ q.negative = true := by
  have positive := magnitude_pos full
  unfold value
  cases q.negative with
  | false => exact iff_of_false positive.not_gt Bool.false_ne_true
  | true => exact iff_of_true (neg_neg_iff_pos.mpr positive) rfl

theorem value_ne_zero {q : Quantity} (full : q.isFull) : q.value ≠ 0 := by
  have positive := magnitude_pos full
  unfold value
  split
  · exact neg_ne_zero.mpr positive.ne'
  · exact positive.ne'

/-- **A number is at most one quantity.** -/
theorem value_injective : Function.Injective value := by
  intro a b same
  rcases a.eq_zero_or_isFull with rfl | fa <;> rcases b.eq_zero_or_isFull with rfl | fb
  · rfl
  · exact absurd (same.symm.trans value_zero) (value_ne_zero fb)
  · exact absurd (same.trans value_zero) (value_ne_zero fa)
  · have signs : a.negative = b.negative := by
      rw [Bool.eq_iff_iff, ← value_neg_iff_of_isFull fa, ← value_neg_iff_of_isFull fb, same]
    refine eq_of_magnitude_eq fa fb signs ?_
    unfold value at same
    rw [signs] at same
    split at same
    · exact neg_injective same
    · exact same

theorem compare_eq_eq_iff {a b : Quantity} : compare a b = .eq ↔ a = b := by
  rw [compare_eq_compare_value, compare_eq_iff_eq, value_injective.eq_iff]

/-- The order of numbers is total, and so is that of quantities. -/
instance : Std.TransOrd Quantity where
  eq_swap := by
    intro a b
    rw [compare_eq_compare_value, compare_eq_compare_value]
    exact Std.OrientedCmp.eq_swap
  isLE_trans := by
    intro a b c ab bc
    rw [compare_eq_compare_value] at ab bc ⊢
    exact Std.TransCmp.isLE_trans ab bc

instance : Std.LawfulEqOrd Quantity where
  compare_self := compare_eq_eq_iff.mpr rfl
  eq_of_compare := compare_eq_eq_iff.mp

/-- **Quantities are ordered as the numbers that they are**, which is a total order, and compare as
equal exactly when they are one quantity. -/
theorem order_of_numbers :
    (∀ a b : Quantity, compare a b = compare a.value b.value ∧ (compare a b = .eq ↔ a = b)) ∧
      Std.TransOrd Quantity ∧ Std.LawfulEqOrd Quantity :=
  ⟨fun a b => ⟨compare_eq_compare_value a b, compare_eq_eq_iff⟩, inferInstance, inferInstance⟩

/-- **Sorting puts numbers in order**, and loses none. -/
theorem sort_ordered (quantities : List Quantity) :
    (sort quantities).Perm quantities ∧
      (sort quantities).Pairwise fun a b => a.value ≤ b.value := by
  have le_iff (a b : Quantity) : (compare a b != .gt) = true ↔ a.value ≤ b.value := by
    rw [bne_iff_ne, compare_eq_compare_value, Ne, compare_gt_iff_gt, not_lt]
  refine ⟨List.mergeSort_perm _ _, ?_⟩
  have ordered : (sort quantities).Pairwise fun a b => (compare a b != .gt) = true := by
    apply List.pairwise_mergeSort
    · intro a b c ab bc
      rw [le_iff] at ab bc ⊢
      exact ab.trans bc
    · intro a b
      rw [Bool.or_eq_true, le_iff, le_iff]
      exact le_total a.value b.value
  exact ordered.imp fun {a b} h => (le_iff a b).mp h

end SwapPayout.Quantity
