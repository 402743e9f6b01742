import Mathlib.Algebra.Order.Field.Power
import Mathlib.Algebra.Order.Field.Rat
import Mathlib.Tactic.Linarith
import Mathlib.Tactic.NormNum
import Mathlib.Tactic.Positivity
import Mathlib.Tactic.Ring
import SwapPayout.Quantity.Basic

/-!
# The number that a quantity is

Quantities are compared sign by sign, then exponent by exponent, then mantissa by mantissa. In
normal form this is the order of numbers: a greater exponent outweighs whatever the mantissas are,
since all of them have sixteen digits. `compare_eq_compare_value` says so for all quantities, and
`atLeast_iff` for the one comparison that payouts make.
-/

namespace SwapPayout.Quantity

/-- How far a quantity is from zero. -/
def magnitude (q : Quantity) : ℚ := q.mantissa * 10 ^ q.exponent

/-- The number that a quantity is. -/
def value (q : Quantity) : ℚ := if q.negative then -q.magnitude else q.magnitude

/-- Has the mantissa sixteen digits? -/
def isFull (q : Quantity) : Prop := 10 ^ 15 ≤ q.mantissa ∧ q.mantissa < 10 ^ 16

theorem countable_iff {e : Int} : countable e = true ↔ -2 ^ 31 ≤ e ∧ e < 2 ^ 31 := by
  simp only [countable, Bool.and_eq_true, decide_eq_true_eq]

theorem value_zero : zero.value = 0 := by
  norm_num [value, magnitude, zero]

/-- The normal form, in one word each. -/
theorem eq_zero_or_isFull (q : Quantity) : q = zero ∨ q.isFull := by
  obtain ⟨negative, mantissa, exponent, normal⟩ := q
  rcases normal with ⟨rfl, rfl, rfl⟩ | normal
  · exact .inl rfl
  · exact .inr ⟨normal.1, normal.2.1⟩

theorem not_isZero {q : Quantity} (full : q.isFull) : ¬ q.isZero = true := by
  have := full.1
  rw [isZero, beq_iff_eq]
  omega

/-! ## Magnitudes -/

theorem magnitude_pos {q : Quantity} (full : q.isFull) : 0 < q.magnitude := by
  have positive : 0 < q.mantissa := by
    have := full.1
    omega
  have : (0 : ℚ) < q.mantissa := by exact_mod_cast positive
  unfold magnitude
  positivity

/-- **A greater exponent outweighs the mantissas.** -/
theorem magnitude_lt_of_exponent_lt {a b : Quantity} (ha : a.isFull) (hb : b.isFull)
    (h : a.exponent < b.exponent) : a.magnitude < b.magnitude := by
  have below : (a.mantissa : ℚ) < 10 ^ 16 := by exact_mod_cast ha.2
  have above : (10 : ℚ) ^ 15 ≤ b.mantissa := by exact_mod_cast hb.1
  calc a.magnitude < 10 ^ 16 * 10 ^ a.exponent :=
        mul_lt_mul_of_pos_right below (by positivity)
    _ = 10 ^ 15 * 10 ^ (a.exponent + 1) := by
        rw [zpow_add_one₀ (by norm_num)]
        ring
    _ ≤ 10 ^ 15 * 10 ^ b.exponent :=
        mul_le_mul_of_nonneg_left (zpow_le_zpow_right₀ (by norm_num) h) (by positivity)
    _ ≤ b.magnitude := mul_le_mul_of_nonneg_right above (by positivity)

theorem magnitude_lt_of_mantissa_lt {a b : Quantity} (same : a.exponent = b.exponent)
    (h : a.mantissa < b.mantissa) : a.magnitude < b.magnitude := by
  unfold magnitude
  rw [same]
  exact mul_lt_mul_of_pos_right (by exact_mod_cast h) (by positivity)

/-- Magnitudes in normal form are ordered by exponent, then by mantissa. -/
theorem compareMagnitude_eq {a b : Quantity} (ha : a.isFull) (hb : b.isFull) :
    compareMagnitude a b = compare a.magnitude b.magnitude := by
  unfold compareMagnitude
  -- Only equal exponents leave the mantissas a say.
  rcases lt_trichotomy a.exponent b.exponent with less | same | more
  · rw [compare_lt_iff_lt.mpr less, compare_lt_iff_lt.mpr (magnitude_lt_of_exponent_lt ha hb less)]
    rfl
  · rw [compare_eq_iff_eq.mpr same]
    rcases lt_trichotomy a.mantissa b.mantissa with less | equal | more
    · rw [compare_lt_iff_lt.mpr less,
        compare_lt_iff_lt.mpr (magnitude_lt_of_mantissa_lt same less)]
      rfl
    · have : a.magnitude = b.magnitude := by rw [magnitude, magnitude, same, equal]
      rw [compare_eq_iff_eq.mpr equal, compare_eq_iff_eq.mpr this]
      rfl
    · rw [compare_gt_iff_gt.mpr more,
        compare_gt_iff_gt.mpr (magnitude_lt_of_mantissa_lt same.symm more)]
      rfl
  · rw [compare_gt_iff_gt.mpr more, compare_gt_iff_gt.mpr (magnitude_lt_of_exponent_lt hb ha more)]
    rfl

/-! ## Signs -/

/-- What the sign of a quantity says of its value. -/
theorem sign_cases (q : Quantity) :
    (q.sign = 0 ∧ q.value = 0) ∨
    (q.sign = 1 ∧ q.value = q.magnitude ∧ q.isFull) ∨
    (q.sign = -1 ∧ q.value = -q.magnitude ∧ q.isFull) := by
  obtain ⟨negative, mantissa, exponent, normal⟩ := q
  rcases normal with ⟨rfl, rfl, rfl⟩ | normal
  · exact .inl ⟨rfl, value_zero⟩
  · have nonzero : ¬ (mantissa == 0) = true := by simp; omega
    right
    cases negative with
    | false => exact .inl ⟨by simp [sign, isZero, nonzero], rfl, normal.1, normal.2.1⟩
    | true => exact .inr ⟨by simp [sign, isZero, nonzero], rfl, normal.1, normal.2.1⟩

theorem sign_range (q : Quantity) : -1 ≤ q.sign ∧ q.sign ≤ 1 := by
  rcases q.sign_cases with ⟨s, -⟩ | ⟨s, -⟩ | ⟨s, -⟩ <;> omega

theorem value_neg_iff {q : Quantity} : q.value < 0 ↔ q.sign < 0 := by
  rcases q.sign_cases with ⟨s, v⟩ | ⟨s, v, full⟩ | ⟨s, v, full⟩
  · rw [s, v]
    exact ⟨fun h => absurd h (lt_irrefl 0), fun h => absurd h (lt_irrefl 0)⟩
  · rw [s, v]
    exact ⟨fun h => absurd h (magnitude_pos full).not_gt, fun h => absurd h (by decide)⟩
  · rw [s, v]
    exact ⟨fun _ => by decide, fun _ => neg_neg_iff_pos.mpr (magnitude_pos full)⟩

theorem value_pos_of_sign_pos {q : Quantity} (h : 0 < q.sign) : 0 < q.value := by
  rcases q.sign_cases with ⟨s, -⟩ | ⟨-, v, full⟩ | ⟨s, -⟩
  · omega
  · rw [v]
    exact magnitude_pos full
  · omega

/-- Nothing but sixteen digits is above zero. -/
theorem isFull_of_value_pos {q : Quantity} (h : 0 < q.value) :
    q.isFull ∧ q.value = q.magnitude := by
  rcases q.sign_cases with ⟨-, v⟩ | ⟨-, v, full⟩ | ⟨s, -⟩
  · exact absurd v h.ne'
  · exact ⟨full, v⟩
  · have below : q.value < 0 := value_neg_iff.mpr (by omega)
    exact absurd below h.not_gt

theorem value_lt_of_sign_lt {a b : Quantity} (h : a.sign < b.sign) : a.value < b.value := by
  have low := a.sign_range
  have high := b.sign_range
  by_cases negative : a.sign < 0
  · calc a.value < 0 := value_neg_iff.mpr negative
      _ ≤ b.value := not_lt.mp fun below => by
          have := value_neg_iff.mp below
          omega
  · calc a.value = 0 := by
          rcases a.sign_cases with ⟨-, v⟩ | ⟨s, -⟩ | ⟨s, -⟩
          · exact v
          · omega
          · omega
      _ < b.value := value_pos_of_sign_pos (by omega)

/-! ## Values -/

theorem compare_neg_neg (x y : ℚ) : compare (-x) (-y) = compare y x := by
  rcases lt_trichotomy y x with less | equal | more
  · rw [compare_lt_iff_lt.mpr less, compare_lt_iff_lt.mpr (neg_lt_neg less)]
  · rw [equal, compare_eq_iff_eq.mpr rfl, compare_eq_iff_eq.mpr rfl]
  · rw [compare_gt_iff_gt.mpr more, compare_gt_iff_gt.mpr (neg_lt_neg more)]

/-- Quantities of one sign are ordered by magnitude, those below zero the other way round. -/
theorem compare_of_sign_eq {a b : Quantity} (same : a.sign = b.sign) :
    (if a.sign = 0 then .eq
      else if a.sign < 0 then compareMagnitude b a
      else compareMagnitude a b) = compare a.value b.value := by
  rcases a.sign_cases with ⟨sa, va⟩ | ⟨sa, va, fa⟩ | ⟨sa, va, fa⟩ <;>
  rcases b.sign_cases with ⟨sb, vb⟩ | ⟨sb, vb, fb⟩ | ⟨sb, vb, fb⟩ <;>
  rw [sa, sb] at same <;> try exact absurd same (by decide)
  -- What remains of the nine cases are the three in which the signs agree.
  · rw [if_pos sa, va, vb, compare_eq_iff_eq.mpr rfl]
  · rw [if_neg (by omega), if_neg (by omega), compareMagnitude_eq fa fb, va, vb]
  · rw [if_neg (by omega), if_pos (by omega), compareMagnitude_eq fb fa, va, vb, compare_neg_neg]

/-- **The order of quantities is the order of the numbers that they are.** -/
theorem compare_eq_compare_value (a b : Quantity) : compare a b = compare a.value b.value := by
  show (compare a.sign b.sign).then _ = _
  rcases lt_trichotomy a.sign b.sign with less | same | more
  · rw [compare_lt_iff_lt.mpr less, compare_lt_iff_lt.mpr (value_lt_of_sign_lt less)]
    rfl
  · rw [compare_eq_iff_eq.mpr same, ← compare_of_sign_eq same]
    rfl
  · rw [compare_gt_iff_gt.mpr more, compare_gt_iff_gt.mpr (value_lt_of_sign_lt more)]
    rfl

theorem atLeast_iff {a b : Quantity} : a.atLeast b = true ↔ b.value ≤ a.value := by
  rw [atLeast, bne_iff_ne, compare_eq_compare_value, Ne, compare_lt_iff_lt, not_lt]

end SwapPayout.Quantity
