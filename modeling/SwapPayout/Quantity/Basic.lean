import SwapPayout.Bytes
import SwapPayout.Error.Format

/-!
# Quantities of issued assets

A quantity is a signed decimal `mantissa × 10 ^ exponent` in normal form: sixteen digits and an
exponent from -96 to 80, or the one zero. The normal form is part of the type, so equal numbers are
equal quantities.

`ofParts` takes any digits and exponent and cuts toward zero to sixteen digits. What is too small
becomes zero; what is too large is refused.
-/

namespace SwapPayout

/-! ## Counting digits -/

/-- The number of decimal digits; one for zero. -/
def digitCount (n : Nat) : Nat :=
  if n < 10 then 1 else digitCount (n / 10) + 1

theorem digitCount_pos (n : Nat) : 0 < digitCount n := by
  unfold digitCount
  split <;> omega

theorem lt_pow_digitCount (n : Nat) : n < 10 ^ digitCount n := by
  fun_induction digitCount n with
  | case1 n h => simpa using h
  | case2 n h ih =>
    rw [Nat.pow_succ]
    omega

theorem pow_digitCount_le {n : Nat} (h : 0 < n) : 10 ^ (digitCount n - 1) ≤ n := by
  fun_induction digitCount n with
  | case1 n hn => simpa using Nat.succ_le_of_lt h
  | case2 n hn ih =>
    have ih := ih (by omega)
    have grow : 10 ^ digitCount (n / 10) = 10 ^ (digitCount (n / 10) - 1) * 10 := by
      rw [← Nat.pow_succ]
      congr 1
      have := digitCount_pos (n / 10)
      omega
    simp only [Nat.add_sub_cancel, grow]
    omega

/-! ## Sixteen digits -/

/-- The leading sixteen digits of a number, filled up with zeros. -/
def sixteenDigits (n : Nat) : Nat :=
  if digitCount n ≤ 16 then n * 10 ^ (16 - digitCount n) else n / 10 ^ (digitCount n - 16)

theorem le_sixteenDigits {n : Nat} (h : 0 < n) : 10 ^ 15 ≤ sixteenDigits n := by
  have low := pow_digitCount_le h
  have pos := digitCount_pos n
  unfold sixteenDigits
  split
  · next small =>
    calc 10 ^ 15 = 10 ^ (digitCount n - 1) * 10 ^ (16 - digitCount n) := by
          rw [← Nat.pow_add]; congr 1; omega
      _ ≤ n * 10 ^ (16 - digitCount n) := Nat.mul_le_mul_right _ low
  · next large =>
    rw [Nat.le_div_iff_mul_le (Nat.pow_pos (by decide)), ← Nat.pow_add]
    rwa [show 15 + (digitCount n - 16) = digitCount n - 1 by omega]

theorem sixteenDigits_lt (n : Nat) : sixteenDigits n < 10 ^ 16 := by
  have high := lt_pow_digitCount n
  unfold sixteenDigits
  split
  · next small =>
    calc n * 10 ^ (16 - digitCount n)
        < 10 ^ digitCount n * 10 ^ (16 - digitCount n) :=
          Nat.mul_lt_mul_of_pos_right high (Nat.pow_pos (by decide))
      _ = 10 ^ 16 := by rw [← Nat.pow_add]; congr 1; omega
  · next large =>
    rw [Nat.div_lt_iff_lt_mul (Nat.pow_pos (by decide)), ← Nat.pow_add]
    rwa [show 16 + (digitCount n - 16) = digitCount n by omega]

/-! ## Quantities -/

/-- A signed decimal in normal form. -/
structure Quantity where
  negative : Bool
  mantissa : Nat
  exponent : Int
  normal : (negative = false ∧ mantissa = 0 ∧ exponent = 0) ∨
    (10 ^ 15 ≤ mantissa ∧ mantissa < 10 ^ 16 ∧ -96 ≤ exponent ∧ exponent ≤ 80)
  deriving DecidableEq, Repr

namespace Quantity

def zero : Quantity := ⟨false, 0, 0, .inl ⟨rfl, rfl, rfl⟩⟩

def isZero (q : Quantity) : Bool := q.mantissa == 0

/-- Does an exponent fit the 32-bit word that exponents are counted in? -/
def countable (e : Int) : Bool := -2 ^ 31 ≤ e && e < 2 ^ 31

/-- The quantity `± mantissa × 10 ^ exponent`, cut toward zero to sixteen digits. -/
def ofParts (negative : Bool) (mantissa : Nat) (exponent : Int) : Except FormatError Quantity :=
  if zeroMantissa : mantissa = 0 then .ok zero
  else
    let m := sixteenDigits mantissa
    let e := exponent + digitCount mantissa - 16
    if !countable e then
      .error (.amount s!"exponent of {mantissa}e{exponent} is out of range")
    else if tooLarge : 80 < e then .error (.amount s!"value {m}e{e} is too large to encode")
    else if tooSmall : e < -96 then .ok zero
    else
      .ok ⟨negative, m, e, .inr
        ⟨le_sixteenDigits (by omega), sixteenDigits_lt _, by omega, by omega⟩⟩

/-- The quantity `value × 10 ^ exponent`, of an integer. -/
def scaled (value exponent : Int) : Except FormatError Quantity :=
  ofParts (value < 0) value.natAbs exponent

/-! ## Order -/

/-- The sign of a quantity: -1, 0 or 1. -/
def sign (q : Quantity) : Int :=
  if q.isZero then 0 else if q.negative then -1 else 1

/-- The order of two magnitudes: by exponent, then by mantissa. -/
def compareMagnitude (a b : Quantity) : Ordering :=
  (compare a.exponent b.exponent).then (compare a.mantissa b.mantissa)

instance : Ord Quantity where
  compare a b :=
    (compare a.sign b.sign).then <|
      if a.sign = 0 then .eq
      else if a.sign < 0 then compareMagnitude b a
      else compareMagnitude a b

def atLeast (a b : Quantity) : Bool := compare a b != .lt

def sort (quantities : List Quantity) : List Quantity :=
  quantities.mergeSort fun a b => compare a b != .gt

/-! ## Binary form -/

/-- The eight-byte form as a number: a marker bit, the sign, the exponent from 1, the mantissa. -/
def code (q : Quantity) : Nat :=
  if q.isZero then 2 ^ 63
  else 2 ^ 63 + (if q.negative then 0 else 2 ^ 62) + (q.exponent + 97).toNat * 2 ^ 54 + q.mantissa

def toBytes (q : Quantity) : Bytes := Bytes.ofNat 8 q.code

end Quantity

end SwapPayout
