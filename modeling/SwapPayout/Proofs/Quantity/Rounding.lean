import SwapPayout.Proofs.Quantity.Value

/-!
# Cutting a number to sixteen digits

A magnitude is cut toward zero: it becomes the one quantity of sixteen digits that it reaches and
whose successor it does not reach (`IsCut`). Below `10 ^ (-81)` it becomes the one zero, from
`10 ^ 96` on it is refused (`Rounded`). Nothing else about the number counts, so rounding is
monotone, equal numbers are rounded alike, and what has a quantity of its own is kept.

`rounded_ofParts` says that digits with an exponent are rounded so. The number of digits is not
bounded: it is the position of the first digit that decides in which range a number lies, and
sixteen digits from there are what is kept of it.
-/

namespace SwapPayout.Quantity

/-! ## Neighbours -/

/-- The magnitude that follows a quantity's own. -/
def nextMagnitude (q : Quantity) : ℚ := (q.mantissa + 1) * 10 ^ q.exponent

theorem magnitude_nonneg (q : Quantity) : 0 ≤ q.magnitude := by
  unfold magnitude
  positivity

theorem magnitude_zero : zero.magnitude = 0 := by
  norm_num [magnitude, zero]

theorem range_of_isFull {q : Quantity} (full : q.isFull) : -96 ≤ q.exponent ∧ q.exponent ≤ 80 := by
  rcases q.normal with ⟨-, zero, -⟩ | ⟨-, -, range⟩
  · have := full.1
    omega
  · exact range

/-- **No quantity of sixteen digits lies between neighbours.** -/
theorem nextMagnitude_le {a b : Quantity} (ha : a.isFull) (hb : b.isFull)
    (h : a.magnitude < b.magnitude) : a.nextMagnitude ≤ b.magnitude := by
  rcases lt_trichotomy a.exponent b.exponent with less | same | more
  · have below : (a.mantissa : ℚ) + 1 ≤ 10 ^ 16 := by exact_mod_cast ha.2
    have above : (10 : ℚ) ^ 15 ≤ b.mantissa := by exact_mod_cast hb.1
    calc a.nextMagnitude ≤ 10 ^ 16 * 10 ^ a.exponent :=
          mul_le_mul_of_nonneg_right below (by positivity)
      _ = 10 ^ 15 * 10 ^ (a.exponent + 1) := by
          rw [zpow_add_one₀ (by norm_num)]
          ring
      _ ≤ 10 ^ 15 * 10 ^ b.exponent :=
          mul_le_mul_of_nonneg_left (zpow_le_zpow_right₀ (by norm_num) less) (by positivity)
      _ ≤ b.magnitude := mul_le_mul_of_nonneg_right above (by positivity)
  · have power : (0 : ℚ) < 10 ^ b.exponent := by positivity
    unfold magnitude at h
    unfold nextMagnitude magnitude
    rw [same] at h ⊢
    have mantissas : a.mantissa < b.mantissa := by
      exact_mod_cast lt_of_mul_lt_mul_right h power.le
    exact mul_le_mul_of_nonneg_right (by exact_mod_cast mantissas) power.le
  · exact absurd (magnitude_lt_of_exponent_lt hb ha more) h.not_gt

/-- Quantities of sixteen digits that differ in no sign and no magnitude do not differ. -/
theorem eq_of_magnitude_eq {a b : Quantity} (ha : a.isFull) (hb : b.isFull)
    (sign : a.negative = b.negative) (h : a.magnitude = b.magnitude) : a = b := by
  have exponents : a.exponent = b.exponent := by
    rcases lt_trichotomy a.exponent b.exponent with less | same | more
    · exact absurd h (magnitude_lt_of_exponent_lt ha hb less).ne
    · exact same
    · exact absurd h (magnitude_lt_of_exponent_lt hb ha more).ne'
  have mantissas : a.mantissa = b.mantissa := by
    rcases lt_trichotomy a.mantissa b.mantissa with less | same | more
    · exact absurd h (magnitude_lt_of_mantissa_lt exponents less).ne
    · exact same
    · exact absurd h (magnitude_lt_of_mantissa_lt exponents.symm more).ne'
  obtain ⟨_, _, _, _⟩ := a
  obtain ⟨_, _, _, _⟩ := b
  obtain rfl := sign
  obtain rfl := mantissas
  obtain rfl := exponents
  rfl

/-! ## Cuts -/

/-- **A quantity is a magnitude, cut toward zero**, with a sign. -/
structure IsCut (q : Quantity) (negative : Bool) (x : ℚ) : Prop where
  sign : q.negative = negative
  /-- The mantissa has sixteen digits. -/
  full : q.isFull
  range : -96 ≤ q.exponent ∧ q.exponent ≤ 80
  reached : q.magnitude ≤ x
  passed : x < q.nextMagnitude

namespace IsCut

variable {q q' : Quantity} {negative : Bool} {x y : ℚ}

/-- A cut is the greatest quantity of sixteen digits that the number reaches. -/
theorem greatest (h : q.IsCut negative x) (full : q'.isFull) (reached : q'.magnitude ≤ x) :
    q'.magnitude ≤ q.magnitude := by
  by_contra beyond
  have gap := nextMagnitude_le h.full full (not_le.mp beyond)
  exact absurd (h.passed.trans_le gap) reached.not_gt

theorem mono (h : q.IsCut negative x) (h' : q'.IsCut negative y) (le : x ≤ y) :
    q.magnitude ≤ q'.magnitude :=
  h'.greatest h.full (h.reached.trans le)

theorem unique (h : q.IsCut negative x) (h' : q'.IsCut negative x) : q = q' :=
  eq_of_magnitude_eq h.full h'.full (h.sign.trans h'.sign.symm)
    (le_antisymm (h.mono h' le_rfl) (h'.mono h le_rfl))

/-- A quantity is its own cut. -/
theorem self (full : q.isFull) : q.IsCut q.negative q.magnitude := by
  refine ⟨rfl, full, range_of_isFull full, le_rfl, ?_⟩
  exact mul_lt_mul_of_pos_right (lt_add_one _) (by positivity)

/-- What can be cut is in the range of quantities. -/
theorem inRange (h : q.IsCut negative x) :
    (10 : ℚ) ^ (-81 : ℤ) ≤ x ∧ x < (10 : ℚ) ^ (96 : ℤ) := by
  have low : (10 : ℚ) ^ 15 ≤ q.mantissa := by exact_mod_cast h.full.1
  have high : (q.mantissa : ℚ) + 1 ≤ 10 ^ 16 := by exact_mod_cast h.full.2
  constructor
  · calc (10 : ℚ) ^ (-81 : ℤ) = 10 ^ 15 * 10 ^ (-96 : ℤ) := by norm_num
      _ ≤ 10 ^ 15 * 10 ^ q.exponent :=
          mul_le_mul_of_nonneg_left (zpow_le_zpow_right₀ (by norm_num) h.range.1) (by positivity)
      _ ≤ q.magnitude := mul_le_mul_of_nonneg_right low (by positivity)
      _ ≤ x := h.reached
  · calc x < q.nextMagnitude := h.passed
      _ ≤ 10 ^ 16 * 10 ^ q.exponent := mul_le_mul_of_nonneg_right high (by positivity)
      _ ≤ 10 ^ 16 * 10 ^ (80 : ℤ) :=
          mul_le_mul_of_nonneg_left (zpow_le_zpow_right₀ (by norm_num) h.range.2) (by positivity)
      _ = 10 ^ (96 : ℤ) := by norm_num

end IsCut

/-! ## Outcomes -/

/-- **An outcome is a magnitude, rounded**: refused, the unsigned zero, or the magnitude cut toward
zero, each exactly where it belongs. -/
structure Rounded (negative : Bool) (x : ℚ) (outcome : Except FormatError Quantity) : Prop where
  refused : (∃ e, outcome = .error e) ↔ (10 : ℚ) ^ (96 : ℤ) ≤ x
  vanished : outcome = .ok zero ↔ x < (10 : ℚ) ^ (-81 : ℤ)
  /-- There is one such cut. -/
  cut : (10 : ℚ) ^ (-81 : ℤ) ≤ x → x < (10 : ℚ) ^ (96 : ℤ) →
    ∃ q, outcome = .ok q ∧ q.IsCut negative x ∧ ∀ q' : Quantity, q'.IsCut negative x → q' = q

namespace Rounded

variable {negative : Bool} {x y : ℚ} {outcome outcome' : Except FormatError Quantity}

theorem of_le (large : (10 : ℚ) ^ (96 : ℤ) ≤ x) (cause : FormatError) :
    Rounded negative x (.error cause) := by
  have order : (10 : ℚ) ^ (-81 : ℤ) < 10 ^ (96 : ℤ) := by norm_num
  refine ⟨⟨fun _ => large, fun _ => ⟨cause, rfl⟩⟩, ⟨?_, ?_⟩, ?_⟩
  · rintro ⟨⟩
  · intro small
    exact absurd (order.trans_le large) small.not_gt
  · intro _ bounded
    exact absurd large bounded.not_ge

theorem of_lt (small : x < (10 : ℚ) ^ (-81 : ℤ)) : Rounded negative x (.ok zero) := by
  have order : (10 : ℚ) ^ (-81 : ℤ) < 10 ^ (96 : ℤ) := by norm_num
  refine ⟨⟨?_, ?_⟩, ⟨fun _ => small, fun _ => rfl⟩, ?_⟩
  · rintro ⟨_, ⟨⟩⟩
  · intro large
    exact absurd (order.trans_le large) small.not_gt
  · intro reached
    exact absurd small reached.not_gt

theorem of_cut {q : Quantity} (isCut : q.IsCut negative x) : Rounded negative x (.ok q) := by
  obtain ⟨low, high⟩ := isCut.inRange
  refine ⟨⟨?_, ?_⟩, ⟨?_, ?_⟩, ?_⟩
  · rintro ⟨_, ⟨⟩⟩
  · intro large
    exact absurd large high.not_ge
  · intro same
    obtain rfl := Except.ok.inj same
    exact absurd isCut.full.1 (by decide)
  · intro small
    exact absurd low small.not_ge
  · intro _ _
    exact ⟨q, rfl, isCut, fun q' other => other.unique isCut⟩

/-- The range of a number decides what becomes of it. -/
theorem cases (h : Rounded negative x outcome) :
    ((10 : ℚ) ^ (96 : ℤ) ≤ x ∧ ∃ e, outcome = .error e) ∨
    (x < (10 : ℚ) ^ (-81 : ℤ) ∧ outcome = .ok zero) ∨
    ((10 : ℚ) ^ (-81 : ℤ) ≤ x ∧ ∃ q, outcome = .ok q ∧ q.IsCut negative x) := by
  by_cases large : (10 : ℚ) ^ (96 : ℤ) ≤ x
  · exact .inl ⟨large, h.refused.mpr large⟩
  · by_cases small : x < (10 : ℚ) ^ (-81 : ℤ)
    · exact .inr (.inl ⟨small, h.vanished.mpr small⟩)
    · obtain ⟨q, cut, isCut, -⟩ := h.cut (not_lt.mp small) (not_le.mp large)
      exact .inr (.inr ⟨not_lt.mp small, q, cut, isCut⟩)

theorem of_isCut (h : Rounded negative x outcome) {q : Quantity} (isCut : q.IsCut negative x) :
    outcome = .ok q := by
  obtain ⟨low, high⟩ := isCut.inRange
  obtain ⟨q', cut, -, unique⟩ := h.cut low high
  rw [cut, unique q isCut]

/-- **A quantity is rounded to itself.** -/
theorem eq_self {q : Quantity} (h : Rounded q.negative q.magnitude outcome) : outcome = .ok q := by
  rcases q.eq_zero_or_isFull with rfl | full
  · apply h.vanished.mpr
    rw [magnitude_zero]
    positivity
  · exact h.of_isCut (.self full)

/-- **Rounding is monotone**: what is not above a number that is accepted is accepted, and as no
greater a quantity. -/
theorem mono (h : Rounded negative x outcome) (h' : Rounded negative y outcome') (le : x ≤ y)
    {q' : Quantity} (accepted : outcome' = .ok q') :
    ∃ q, outcome = .ok q ∧ q.magnitude ≤ q'.magnitude := by
  rcases h.cases with ⟨large, -⟩ | ⟨-, vanished⟩ | ⟨reached, q, cut, isCut⟩
  · obtain ⟨e, refused⟩ := h'.refused.mpr (large.trans le)
    cases accepted.symm.trans refused
  · exact ⟨zero, vanished, magnitude_zero.trans_le q'.magnitude_nonneg⟩
  · refine ⟨q, cut, ?_⟩
    rcases h'.cases with ⟨-, e, refused⟩ | ⟨small, -⟩ | ⟨-, q'', cut', isCut'⟩
    · cases accepted.symm.trans refused
    · exact absurd (reached.trans le) small.not_ge
    · cases accepted.symm.trans cut'
      exact isCut.mono isCut' le

/-- **Equal numbers are rounded alike.** -/
theorem same (h : Rounded negative x outcome) (h' : Rounded negative x outcome') :
    outcome.toOption = outcome'.toOption := by
  rcases h.cases with ⟨large, e, refused⟩ | ⟨small, vanished⟩ | ⟨-, q, cut, isCut⟩
  · obtain ⟨e', refused'⟩ := h'.refused.mpr large
    rw [refused, refused']
    rfl
  · rw [vanished, h'.vanished.mpr small]
  · rw [cut, h'.of_isCut isCut]

/-- What is accepted has the sign that was asked for, or is zero. -/
theorem value_eq {q : Quantity} (h : Rounded negative x (.ok q)) :
    q.value = if negative then -q.magnitude else q.magnitude := by
  rcases h.cases with ⟨-, e, ⟨⟩⟩ | ⟨-, same⟩ | ⟨-, q', same, isCut⟩
  · obtain rfl := Except.ok.inj same
    rw [value_zero, magnitude_zero, neg_zero, ite_self]
  · obtain rfl := Except.ok.inj same
    rw [value, isCut.sign]

/-- **Rounding moves a number past no quantity above zero**: the number reaches such a quantity when
what it is rounded to does. -/
theorem le_value_iff {q v : Quantity} (h : Rounded negative x (.ok q)) (nonneg : 0 ≤ x)
    (positive : 0 < v.value) :
    v.value ≤ q.value ↔ v.value ≤ if negative then -x else x := by
  rw [h.value_eq]
  cases negative with
  | true =>
    -- What is not above zero reaches none of them, rounded or not.
    rw [if_pos rfl, if_pos rfl]
    refine iff_of_false (fun le => ?_) fun le => ?_
    · exact absurd (positive.trans_le le) (neg_nonpos.mpr q.magnitude_nonneg).not_gt
    · exact absurd (positive.trans_le le) (neg_nonpos.mpr nonneg).not_gt
  | false =>
    obtain ⟨full, value⟩ := isFull_of_value_pos positive
    rw [if_neg Bool.false_ne_true, if_neg Bool.false_ne_true, value]
    rcases h.cases with ⟨-, e, ⟨⟩⟩ | ⟨small, same⟩ | ⟨-, q', same, isCut⟩
    · obtain rfl := Except.ok.inj same
      refine iff_of_false (fun le => ?_) fun le => ?_
      · exact absurd (le.trans_eq magnitude_zero) (magnitude_pos full).not_ge
      · exact absurd ((IsCut.self full).inRange.1.trans le) small.not_ge
    · obtain rfl := Except.ok.inj same
      exact ⟨fun le => le.trans isCut.reached, isCut.greatest full⟩

/-- A greater number is no smaller a quantity, and with a sign no greater one. -/
theorem atLeast (h : Rounded negative x outcome) (h' : Rounded negative y outcome') (le : x ≤ y)
    {q' : Quantity} (accepted : outcome' = .ok q') :
    ∃ q, outcome = .ok q ∧ (if negative then q.atLeast q' else q'.atLeast q) = true := by
  obtain ⟨q, accepted', magnitudes⟩ := h.mono h' le accepted
  subst accepted accepted'
  refine ⟨q, rfl, ?_⟩
  have value := h.value_eq
  have value' := h'.value_eq
  cases negative with
  | false =>
    rw [if_neg Bool.false_ne_true] at value value' ⊢
    rw [atLeast_iff, value, value']
    exact magnitudes
  | true =>
    rw [if_pos rfl] at value value' ⊢
    rw [atLeast_iff, value, value']
    exact neg_le_neg magnitudes

end Rounded

/-! ## Leading digits -/

section

variable {m : Nat}

theorem digitCount_le {k : Nat} (below : m < 10 ^ k) (positive : 0 < m) : digitCount m ≤ k := by
  have fewer : digitCount m - 1 < k :=
    (Nat.pow_lt_pow_iff_right (by decide)).mp ((pow_digitCount_le positive).trans_lt below)
  omega

theorem lt_digitCount {k : Nat} (reached : 10 ^ k ≤ m) : k < digitCount m :=
  (Nat.pow_lt_pow_iff_right (by decide)).mp (reached.trans_lt (lt_pow_digitCount m))

theorem digitCount_mul_ten (positive : 0 < m) : digitCount (m * 10) = digitCount m + 1 := by
  rw [digitCount, if_neg (by omega), Nat.mul_div_cancel m (by decide)]

/-- Without its last digits a number has as many digits less. -/
theorem digitCount_div_pow {k : Nat} (reached : 10 ^ k ≤ m) :
    digitCount (m / 10 ^ k) + k = digitCount m := by
  induction k with
  | zero => rw [Nat.pow_zero, Nat.div_one, Nat.add_zero]
  | succ k ih =>
    rw [Nat.pow_succ] at reached
    have two : 10 ≤ m / 10 ^ k := by
      rw [Nat.le_div_iff_mul_le (Nat.pow_pos (by decide)), Nat.mul_comm]
      exact reached
    have one : digitCount (m / 10 ^ k) = digitCount (m / 10 ^ k / 10) + 1 := by
      rw [digitCount, if_neg (by omega)]
    rw [Nat.pow_succ, ← Nat.div_div_eq_div_mul, ← ih (by omega), one]
    omega

theorem sixteenDigits_of_le (many : 10 ^ 15 ≤ m) :
    sixteenDigits m = m / 10 ^ (digitCount m - 16) := by
  have sixteen := lt_digitCount many
  unfold sixteenDigits
  split
  · next few => rw [show digitCount m = 16 by omega, Nat.sub_self, Nat.pow_zero, Nat.mul_one,
      Nat.div_one]
  · rfl

theorem pow_le_of_le_div {k : Nat} (many : 10 ^ 15 ≤ m / 10 ^ k) : 10 ^ k ≤ m := by
  apply (Nat.one_le_div_iff (Nat.pow_pos (by decide))).mp
  exact le_trans (by decide) many

/-- The digits behind the sixteenth have no say. -/
theorem sixteenDigits_div_pow {k : Nat} (many : 10 ^ 15 ≤ m / 10 ^ k) :
    sixteenDigits (m / 10 ^ k) = sixteenDigits m := by
  have count := digitCount_div_pow (pow_le_of_le_div many)
  have sixteen := lt_digitCount many
  rw [sixteenDigits_of_le many, sixteenDigits_of_le (many.trans (Nat.div_le_self m (10 ^ k))),
    Nat.div_div_eq_div_mul, ← Nat.pow_add]
  congr 2
  omega

theorem sixteenDigits_mul_ten (positive : 0 < m) (few : digitCount m < 16) :
    sixteenDigits (m * 10) = sixteenDigits m := by
  rw [sixteenDigits, sixteenDigits, if_pos few.le, digitCount_mul_ten positive,
    if_pos (Nat.succ_le_of_lt few), Nat.mul_assoc, ← Nat.pow_succ']
  congr 2
  omega

end

/-! ## Digits and an exponent -/

section

variable {m : Nat} {e : Int}

/-- The position of the first digit. -/
theorem decade (e : Int) (positive : 0 < m) :
    (10 : ℚ) ^ (e + digitCount m - 1) ≤ m * 10 ^ e ∧
      (m : ℚ) * 10 ^ e < 10 ^ (e + digitCount m - 1 + 1) := by
  have power : (0 : ℚ) < 10 ^ e := by positivity
  have low : (10 : ℚ) ^ (digitCount m - 1) ≤ m := by exact_mod_cast pow_digitCount_le positive
  have high : (m : ℚ) < 10 ^ digitCount m := by exact_mod_cast lt_pow_digitCount m
  have count := digitCount_pos m
  constructor
  · calc (10 : ℚ) ^ (e + digitCount m - 1)
        = 10 ^ (digitCount m - 1) * 10 ^ e := by
          rw [← zpow_natCast, ← zpow_add₀ (by norm_num)]
          congr 1
          omega
      _ ≤ m * 10 ^ e := mul_le_mul_of_nonneg_right low power.le
  · calc (m : ℚ) * 10 ^ e < 10 ^ digitCount m * 10 ^ e := mul_lt_mul_of_pos_right high power
      _ = 10 ^ (e + digitCount m - 1 + 1) := by
          rw [← zpow_natCast, ← zpow_add₀ (by norm_num)]
          congr 1
          omega

/-- A power of ten is reached exactly when it is not past the first digit. -/
theorem zpow_le_iff (e k : Int) (positive : 0 < m) :
    (10 : ℚ) ^ k ≤ m * 10 ^ e ↔ k ≤ e + digitCount m - 1 := by
  obtain ⟨low, high⟩ := decade e positive
  constructor
  · intro reached
    have := (zpow_lt_zpow_iff_right₀ (by norm_num)).mp (reached.trans_lt high)
    omega
  · intro le
    exact (zpow_le_zpow_right₀ (by norm_num) le).trans low

/-- Up to sixteen digits nothing is cut. -/
theorem sixteenDigits_eq (e : Int) (few : digitCount m ≤ 16) :
    (sixteenDigits m : ℚ) * 10 ^ (e + digitCount m - 16) = m * 10 ^ e := by
  rw [sixteenDigits, if_pos few]
  push_cast
  rw [mul_assoc, ← zpow_natCast, ← zpow_add₀ (by norm_num)]
  congr 2
  omega

/-- The sixteen leading digits are the number, cut toward zero. -/
theorem sixteenDigits_cut (m : Nat) (e : Int) :
    (sixteenDigits m : ℚ) * 10 ^ (e + digitCount m - 16) ≤ m * 10 ^ e ∧
      (m : ℚ) * 10 ^ e < (sixteenDigits m + 1) * 10 ^ (e + digitCount m - 16) := by
  by_cases few : digitCount m ≤ 16
  · have power : (0 : ℚ) < 10 ^ (e + digitCount m - 16) := by positivity
    rw [← sixteenDigits_eq e few]
    exact ⟨le_rfl, mul_lt_mul_of_pos_right (lt_add_one _) power⟩
  · obtain ⟨cut, excess⟩ : ∃ cut, digitCount m = 16 + cut := ⟨digitCount m - 16, by omega⟩
    have power : (0 : ℚ) < 10 ^ e := by positivity
    have split : (10 : ℚ) ^ (e + digitCount m - 16) = 10 ^ cut * 10 ^ e := by
      rw [← zpow_natCast, ← zpow_add₀ (by norm_num)]
      congr 1
      omega
    have digits : sixteenDigits m = m / 10 ^ cut := by
      rw [sixteenDigits, if_neg few, excess, Nat.add_sub_cancel_left]
    have reached : (sixteenDigits m : ℚ) * 10 ^ cut ≤ m := by
      rw [digits]
      exact_mod_cast Nat.div_mul_le_self m (10 ^ cut)
    have passed : (m : ℚ) < (sixteenDigits m + 1) * 10 ^ cut := by
      rw [digits]
      exact_mod_cast (Nat.div_lt_iff_lt_mul (Nat.pow_pos (by decide))).mp (Nat.lt_succ_self _)
    rw [split, ← mul_assoc, ← mul_assoc]
    exact ⟨mul_le_mul_of_nonneg_right reached power.le, mul_lt_mul_of_pos_right passed power⟩

/-- What becomes of digits and an exponent: the exponent of the sixteen digits decides. -/
theorem ofParts_cases (negative : Bool) (e : Int) (positive : 0 < m) :
    ((e + digitCount m - 16 < -2 ^ 31 ∨ 80 < e + digitCount m - 16) ∧
      ∃ cause, ofParts negative m e = .error cause) ∨
    (e + digitCount m - 16 < -96 ∧ ofParts negative m e = .ok zero) ∨
    (-96 ≤ e + digitCount m - 16 ∧ e + digitCount m - 16 ≤ 80 ∧
      ∃ q, ofParts negative m e = .ok q ∧ q.negative = negative ∧
        q.mantissa = sixteenDigits m ∧ q.exponent = e + digitCount m - 16) := by
  unfold ofParts
  rw [dif_neg (by omega)]
  dsimp only
  split
  · next uncountable =>
    refine .inl ⟨?_, _, rfl⟩
    rw [Bool.not_eq_true', ← Bool.not_eq_true, countable_iff] at uncountable
    omega
  split
  · next large => exact .inl ⟨.inr large, _, rfl⟩
  split
  · next small => exact .inr (.inl ⟨small, rfl⟩)
  · next large small =>
    exact .inr (.inr ⟨not_lt.mp small, not_lt.mp large, _, rfl, rfl, rfl, rfl⟩)

/-- **Digits and an exponent are rounded as the number that they are**, unless the exponent of the
sixteen digits is too small to be counted. -/
theorem rounded_ofParts (negative : Bool) (m : Nat) (e : Int)
    (above : m ≠ 0 → -2 ^ 31 ≤ e + digitCount m - 16) :
    Rounded negative (m * 10 ^ e) (ofParts negative m e) := by
  rcases Nat.eq_zero_or_pos m with rfl | positive
  · have outcome : ofParts negative 0 e = .ok zero := dif_pos rfl
    rw [outcome]
    apply Rounded.of_lt
    rw [Nat.cast_zero, zero_mul]
    positivity
  · have floor := above positive.ne'
    rcases ofParts_cases negative e positive with
      ⟨past, cause, outcome⟩ | ⟨under, outcome⟩ | ⟨-, -, q, outcome, sign, mantissa, exponent⟩
    · rw [outcome]
      refine .of_le ((zpow_le_iff e 96 positive).mpr ?_) cause
      omega
    · rw [outcome]
      refine .of_lt (not_le.mp ((zpow_le_iff e (-81) positive).not.mpr ?_))
      omega
    · have full : q.isFull := by
        unfold isFull
        rw [mantissa]
        exact ⟨le_sixteenDigits positive, sixteenDigits_lt m⟩
      obtain ⟨reached, passed⟩ := sixteenDigits_cut m e
      rw [outcome]
      refine .of_cut ⟨sign, full, range_of_isFull full, ?_, ?_⟩
      · rw [magnitude, mantissa, exponent]
        exact reached
      · rw [nextMagnitude, mantissa, exponent]
        exact passed

/-- A quantity is only made when the exponent of its sixteen digits can be counted. -/
theorem countable_of_ofParts {negative : Bool} {q : Quantity} (positive : 0 < m)
    (made : ofParts negative m e = .ok q) : countable (e + digitCount m - 16) = true := by
  unfold ofParts at made
  rw [dif_neg (by omega)] at made
  dsimp only at made
  split at made
  · cases made
  · next counted => simpa using counted

/-- **Whatever is made of digits and an exponent is rounded.** -/
theorem rounded_of_ofParts {negative : Bool} {q : Quantity}
    (made : ofParts negative m e = .ok q) : Rounded negative (m * 10 ^ e) (.ok q) := by
  rw [← made]
  refine rounded_ofParts negative m e fun nonzero => ?_
  exact (countable_iff.mp (countable_of_ofParts (Nat.pos_of_ne_zero nonzero) made)).1

/-- **Nothing is cut from sixteen digits** in the range of quantities. -/
theorem ofParts_exact (negative : Bool) (few : m < 10 ^ 16)
    (reached : m = 0 ∨ (10 : ℚ) ^ (-81 : ℤ) ≤ m * 10 ^ e)
    (bounded : (m : ℚ) * 10 ^ e < (10 : ℚ) ^ (96 : ℤ)) :
    ∃ q, ofParts negative m e = .ok q ∧ q.magnitude = m * 10 ^ e := by
  rcases Nat.eq_zero_or_pos m with rfl | positive
  · refine ⟨zero, dif_pos rfl, ?_⟩
    rw [magnitude_zero, Nat.cast_zero, zero_mul]
  · have low := (zpow_le_iff e (-81) positive).mp (reached.resolve_left positive.ne')
    have high := (zpow_le_iff e 96 positive).not.mp bounded.not_ge
    rcases ofParts_cases negative e positive with
      ⟨past, -⟩ | ⟨under, -⟩ | ⟨-, -, q, outcome, -, mantissa, exponent⟩
    · omega
    · omega
    · refine ⟨q, outcome, ?_⟩
      rw [magnitude, mantissa, exponent]
      exact sixteenDigits_eq e (digitCount_le few positive)

end

end SwapPayout.Quantity
