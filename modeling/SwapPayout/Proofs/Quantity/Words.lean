import SwapPayout.Proofs.Outcome
import SwapPayout.Proofs.Quantity.Rounding

/-!
# Quantities in machine words

A quantity is made in two loops. The first multiplies the mantissa by ten until it has sixteen
digits, the second divides it by ten until it has no more; the exponent is counted along. The
mantissa is kept in a word of 64 bits, and a product that does not fit it would be a fault. The
exponent is kept in a word of 32 bits; a count that leaves it is noticed, and refuses the quantity.

Here the loops are written out, with what must fit a word tested where it is computed (`scaleUp`,
`scaleDown`). `ofWords_eq` says that they have no fault and make the quantity that `ofParts` makes,
refusals and their texts included. `normalized_of_counted` puts this together with what rounding
is.
-/

namespace SwapPayout.Quantity

/-! ## Words -/

/-- Why a computation in words makes no quantity. -/
inductive Halt where
  /-- A number does not fit its word, and nothing has tested for that. -/
  | overflow
  | refused (cause : FormatError)
  deriving DecidableEq

/-- A number, in a word of 64 bits. -/
def word (n : Nat) : Except Halt Nat := if n < 2 ^ 64 then .ok n else .error .overflow

theorem word_eq_ok {n : Nat} (h : n < 2 ^ 64) : word n = .ok n := if_pos h

/-- As long as the mantissa has not sixteen digits, it gets another one. -/
def scaleUp (cause : FormatError) (m : Nat) (e : Int) : Except Halt (Nat × Int) :=
  if m < 10 ^ 15 then do
    let m ← word (m * 10)
    if h : countable (e - 1) then scaleUp cause m (e - 1) else .error (.refused cause)
  else .ok (m, e)
termination_by (e + 2 ^ 31).toNat
decreasing_by
  rw [countable_iff] at h
  omega

/-- As long as the mantissa has more than sixteen digits, it loses its last one. -/
def scaleDown (cause : FormatError) (m : Nat) (e : Int) : Except Halt (Nat × Int) :=
  if 10 ^ 16 ≤ m then
    if countable (e + 1) then scaleDown cause (m / 10) (e + 1) else .error (.refused cause)
  else .ok (m, e)
termination_by m
decreasing_by omega

/-- One loop behind the other. -/
def scale (cause : FormatError) (m : Nat) (e : Int) : Except Halt (Nat × Int) := do
  let (m, e) ← scaleUp cause m e
  scaleDown cause m e

/-- The words of a quantity. -/
structure Words where
  negative : Bool
  mantissa : Nat
  exponent : Int
  deriving DecidableEq

def words (q : Quantity) : Words := ⟨q.negative, q.mantissa, q.exponent⟩

/-- The words of `± m × 10 ^ e`, made in words. -/
def ofWords (negative : Bool) (m : Nat) (e : Int) : Except Halt Words :=
  if m = 0 then .ok zero.words
  else do
    let (m, e) ← scale (.amount s!"exponent of {m}e{e} is out of range") m e
    if 80 < e then .error (.refused (.amount s!"value {m}e{e} is too large to encode"))
    else if e < -96 then .ok zero.words
    else .ok ⟨negative, m, e⟩

/-- The distance of a signed word from zero, as an unsigned one. Negation wraps around, which is
right for the least number. -/
def distance (value : Int64) : UInt64 := if value < 0 then -value.toUInt64 else value.toUInt64

/-- The words of `value × 10 ^ e`, made in words. -/
def scaledWords (value : Int64) (e : Int) : Except Halt Words :=
  ofWords (value < 0) (distance value).toNat e

/-! ## The loops -/

section

variable {m : Nat} {e : Int}

theorem scaleUp_of_le (cause : FormatError) (e : Int) (many : 10 ^ 15 ≤ m) :
    scaleUp cause m e = .ok (m, e) := by
  rw [scaleUp, if_neg (by omega)]

theorem scaleDown_of_lt (cause : FormatError) (e : Int) (few : m < 10 ^ 16) :
    scaleDown cause m e = .ok (m, e) := by
  rw [scaleDown, if_neg (by omega)]

/-- Sixteen digits stay as they are. -/
theorem digits_of_full (low : 10 ^ 15 ≤ m) (high : m < 10 ^ 16) :
    digitCount m = 16 ∧ sixteenDigits m = m := by
  have many := lt_digitCount low
  have few := digitCount_le high (by omega)
  have sixteen : digitCount m = 16 := by omega
  refine ⟨sixteen, ?_⟩
  rw [sixteenDigits_of_le low, sixteen, Nat.sub_self, Nat.pow_zero, Nat.div_one]

/-- What both loops make of a mantissa, unless the exponent cannot be counted. -/
def levelled (cause : FormatError) (m : Nat) (e : Int) : Except Halt (Nat × Int) :=
  if countable (e + digitCount m - 16) then .ok (sixteenDigits m, e + digitCount m - 16)
  else .error (.refused cause)

theorem levelled_of_full (cause : FormatError) (low : 10 ^ 15 ≤ m) (high : m < 10 ^ 16)
    (counted : countable e = true) : levelled cause m e = .ok (m, e) := by
  obtain ⟨sixteen, same⟩ := digits_of_full low high
  rw [levelled, sixteen, same, show e + (16 : Nat) - 16 = e by omega, if_pos counted]

/-- **The first loop ends with sixteen digits** without a fault, or is refused. -/
theorem scaleUp_eq (cause : FormatError) (positive : 0 < m) (few : m < 10 ^ 16)
    (counted : countable e = true) : scaleUp cause m e = levelled cause m e := by
  induction m, e using scaleUp.induct with
  | case1 m e short ih =>
    have digits := digitCount_le short positive
    rw [scaleUp, if_pos short, word_eq_ok (by omega)]
    show (if h : countable (e - 1) = true then scaleUp cause (m * 10) (e - 1)
      else .error (.refused cause)) = _
    split
    · next counts =>
      -- One digit more and one less to count leave the sixteen digits where they are.
      rw [ih (m * 10) counts (by omega) (by omega) counts, levelled, levelled,
        digitCount_mul_ten positive, sixteenDigits_mul_ten positive (by omega),
        show e - 1 + ↑(digitCount m + 1) - 16 = e + digitCount m - 16 by omega]
    · next past =>
      rw [countable_iff] at counted past
      rw [levelled, if_neg]
      rw [countable_iff]
      omega
  | case2 m e full =>
    rw [scaleUp_of_le cause e (by omega), levelled_of_full cause (by omega) few counted]

/-- **The second loop ends with sixteen digits**, or is refused. -/
theorem scaleDown_eq (cause : FormatError) (many : 10 ^ 15 ≤ m) (counted : countable e = true) :
    scaleDown cause m e = levelled cause m e := by
  induction m, e using scaleDown.induct with
  | case1 m e long counts ih =>
    have kept : 10 ^ 15 ≤ m / 10 ^ 1 := by omega
    have count := digitCount_div_pow (m := m) (k := 1) (by omega)
    have digits := sixteenDigits_div_pow kept
    rw [Nat.pow_one] at count digits
    rw [scaleDown, if_pos long, if_pos counts, ih (by omega) counts, levelled, levelled, digits,
      ← count, show e + 1 + digitCount (m / 10) - 16 = e + ↑(digitCount (m / 10) + 1) - 16 by omega]
  | case2 m e long past =>
    have digits := lt_digitCount long
    rw [countable_iff] at counted past
    rw [scaleDown, if_pos long, if_neg (countable_iff.not.mpr past), levelled, if_neg]
    rw [countable_iff]
    omega
  | case3 m e full =>
    rw [scaleDown_of_lt cause e (by omega), levelled_of_full cause many (by omega) counted]

/-- **Both loops end with sixteen digits**: what the first one levels is left alone by the
second. -/
theorem scale_eq (cause : FormatError) (positive : 0 < m) (counted : countable e = true) :
    scale cause m e = levelled cause m e := by
  unfold scale
  by_cases few : m < 10 ^ 16
  · rw [scaleUp_eq cause positive few counted]
    unfold levelled
    split
    · exact scaleDown_of_lt cause _ (sixteenDigits_lt m)
    · rfl
  · rw [scaleUp_of_le cause e (by omega)]
    exact scaleDown_eq cause (by omega) counted

end

/-! ## Quantities -/

/-- **Quantities are made in words without a fault**, and refused in the same words. -/
theorem ofWords_eq (negative : Bool) (m : Nat) {e : Int} (counted : countable e = true) :
    ofWords negative m e = ((ofParts negative m e).map words).mapError .refused := by
  unfold ofWords ofParts
  split
  · rfl
  · next nonzero =>
    rw [scale_eq _ (Nat.pos_of_ne_zero nonzero) counted, levelled]
    dsimp only
    by_cases counts : countable (e + digitCount m - 16) = true
    · rw [if_pos counts, if_neg (by rw [counts]; decide)]
      show (if 80 < e + digitCount m - 16 then _ else _) = _
      split
      · rfl
      · show (if e + digitCount m - 16 < -96 then _ else _) = _
        split
        · rfl
        · rfl
    · rw [if_neg counts, if_pos (by simpa using counts)]
      rfl

/-- The distance from zero fits its word, that of the least number too. -/
theorem toNat_distance (value : Int64) : (distance value).toNat = value.toInt.natAbs := by
  have unsigned : value.toUInt64.toNat = value.toBitVec.toNat := rfl
  have signed : value.toInt = if 2 * value.toBitVec.toNat < 2 ^ 64 then
      (value.toBitVec.toNat : Int) else value.toBitVec.toNat - (2 ^ 64 : Nat) :=
    BitVec.toInt_eq_toNat_cond value.toBitVec
  have bound := value.toBitVec.isLt
  have below : value < 0 ↔ value.toInt < 0 := Int64.lt_iff_toInt_lt
  unfold distance
  split
  · next negative =>
    rw [below] at negative
    rw [UInt64.toNat_neg, unsigned, show UInt64.size = 2 ^ 64 from rfl]
    omega
  · next nonnegative =>
    rw [below] at nonnegative
    rw [unsigned]
    omega

theorem scaled_eq (value : Int64) (e : Int) :
    scaled value.toInt e = ofParts (value < 0) (distance value).toNat e := by
  rw [scaled, toNat_distance, decide_eq_decide.mpr Int64.lt_iff_toInt_lt]
  rfl

theorem countable_toInt (e : Int32) : countable e.toInt = true :=
  countable_iff.mpr ⟨e.le_toInt, e.toInt_lt⟩

/-! ## All together -/

/-- The number that a mantissa and an exponent stand for. -/
def number (m : UInt64) (e : Int32) : ℚ := m.toNat * 10 ^ e.toInt

/-- The quantity of a sign, a mantissa and an exponent. -/
def make (negative : Bool) (m : UInt64) (e : Int32) : Except FormatError Quantity :=
  ofParts negative m.toNat e.toInt

/-- **What a mantissa and an exponent are made into.** -/
structure Normalized (negative : Bool) (m : UInt64) (e : Int32) : Prop where
  /-- In words the loops end, without a fault. -/
  inWords : ofWords negative m.toNat e.toInt =
    ((make negative m e).map words).mapError .refused
  rounded : Rounded negative (number m e) (make negative m e)
  monotone : ∀ (m' : UInt64) (e' : Int32) (q' : Quantity), -2 ^ 31 + 15 ≤ e'.toInt →
    number m e ≤ number m' e' → make negative m' e' = .ok q' →
    ∃ q, make negative m e = .ok q ∧ (if negative then q.atLeast q' else q'.atLeast q) = true
  /-- Up to sixteen digits nothing is cut. -/
  kept : m.toNat < 10 ^ 16 → m = 0 ∨ (10 : ℚ) ^ (-81 : ℤ) ≤ number m e →
    number m e < (10 : ℚ) ^ (96 : ℤ) →
    ∃ q, make negative m e = .ok q ∧ q.value = if negative then -number m e else number m e
  alike : ∀ (m' : UInt64) (e' : Int32), -2 ^ 31 + 15 ≤ e'.toInt → number m e = number m' e' →
    (make negative m e).toOption = (make negative m' e').toOption

theorem rounded_make (negative : Bool) (m : UInt64) (e : Int32) (above : -2 ^ 31 + 15 ≤ e.toInt) :
    Rounded negative (number m e) (make negative m e) := by
  refine rounded_ofParts negative m.toNat e.toInt ?_
  intro nonzero
  have := digitCount_pos m.toNat
  omega

/-- **Every mantissa and every exponent is rounded toward zero to sixteen digits**, by loops that
end and have no fault; from the least exponents only those are left out that up to fifteen steps
could bring below all exponents. So is every signed number with an exponent. -/
theorem normalized_of_counted (negative : Bool) (m : UInt64) (e : Int32)
    (above : -2 ^ 31 + 15 ≤ e.toInt) :
    Normalized negative m e ∧
    ∀ value : Int64,
      scaledWords value e.toInt =
        ((scaled value.toInt e.toInt).map words).mapError .refused ∧
      Rounded (value < 0) (|(value.toInt : ℚ)| * 10 ^ e.toInt) (scaled value.toInt e.toInt) := by
  have rounded := rounded_make negative m e above
  refine ⟨⟨ofWords_eq negative m.toNat (countable_toInt e), rounded, ?monotone,
    ?kept, ?alike⟩, ?scaled⟩
  case monotone =>
    intro m' e' q' above' le accepted
    exact rounded.atLeast (rounded_make negative m' e' above') le accepted
  case kept =>
    intro few reached bounded
    have zero : m = 0 → m.toNat = 0 := by
      rintro rfl
      rfl
    obtain ⟨q, made, magnitude⟩ := ofParts_exact negative few (reached.imp_left zero) bounded
    refine ⟨q, made, ?_⟩
    rw [make, made] at rounded
    rw [rounded.value_eq, magnitude]
    rfl
  case alike =>
    intro m' e' above' same
    have rounded' := rounded_make negative m' e' above'
    rw [← same] at rounded'
    exact rounded.same rounded'
  case scaled =>
    intro value
    rw [scaled_eq]
    refine ⟨ofWords_eq _ _ (countable_toInt e), ?_⟩
    have far : ((distance value).toNat : ℚ) = |(value.toInt : ℚ)| := by
      rw [toNat_distance, Nat.cast_natAbs, Int.cast_abs]
    rw [← far]
    exact rounded_make _ (distance value) e above

/-- The greatest mantissa loses four digits, and the least signed number three. -/
theorem greatest_normalized :
    make true 18446744073709551615 (-6) =
        .ok ⟨true, 1844674407370955, -2, .inr (by decide)⟩ ∧
      scaled Int64.minValue.toInt (-6) =
        .ok ⟨true, 9223372036854775, -3, .inr (by decide)⟩ := by
  obtain ⟨normalized, every⟩ := normalized_of_counted true 18446744073709551615 (-6) (by decide)
  have greatest : (18446744073709551615 : UInt64).toNat = 18446744073709551615 := rfl
  have least : Int64.minValue.toInt = -9223372036854775808 := rfl
  have exponent : (-6 : Int32).toInt = -6 := rfl
  constructor
  · refine normalized.rounded.of_isCut ⟨rfl, ⟨by decide, by decide⟩, by decide, ?_, ?_⟩
    · norm_num [magnitude, number, greatest, exponent]
    · norm_num [nextMagnitude, number, greatest, exponent]
  · refine (every Int64.minValue).2.of_isCut ⟨rfl, ⟨by decide, by decide⟩, by decide, ?_, ?_⟩
    · norm_num [magnitude, least, exponent]
    · norm_num [nextMagnitude, least, exponent]

end SwapPayout.Quantity
