import Mathlib.Data.Nat.Digits.Lemmas
import SwapPayout.Bytes
import SwapPayout.Radix

/-!
# Numerals and the numbers they stand for

A numeral without leading zeros is determined by its number. So what is read can be written again,
less the zeros in front (`Radix.toDigits_ofDigits`), and numerals that are filled up to one length
are equal when their numbers are (`Radix.eq_of_ofDigits_eq`).

Byte strings are numerals in base 256 of a fixed length: `Bytes.ofNat_toNat`.

The digits of numbers in the library of the language come least significant first; two bridges,
`Radix.toDigits_eq` and `Radix.ofDigits_eq`, turn the order, and the rest is taken from there.
-/

namespace SwapPayout

namespace Radix

variable {base : Nat}

theorem prependDigits_eq (h : 1 < base) (n : Nat) (digits : List Nat) :
    prependDigits base n digits = (Nat.digits base n).reverse ++ digits := by
  fun_induction prependDigits base n digits with
  | case1 n digits stop =>
    have zero : n = 0 := by omega
    simp [zero]
  | case2 n digits more ih =>
    have some_left : n ≠ 0 := by omega
    rw [ih, Nat.digits_eq_cons_digits_div h some_left, List.reverse_cons, List.append_assoc]
    rfl

theorem toDigits_eq (h : 1 < base) (n : Nat) : toDigits base n = (Nat.digits base n).reverse := by
  rw [toDigits, prependDigits_eq h, List.append_nil]

theorem ofDigits_eq (digits : List Nat) :
    ofDigits base digits = Nat.ofDigits base digits.reverse := by
  rw [Nat.ofDigits_eq_foldr, List.foldr_reverse]
  exact congrFun (congrFun (congrArg List.foldl (by funext n d; simp; ring)) 0) digits

/-! ## Written numbers -/

theorem lt_of_mem_toDigits (h : 1 < base) {n d : Nat} (hd : d ∈ toDigits base n) : d < base := by
  rw [toDigits_eq h, List.mem_reverse] at hd
  exact Nat.digits_lt_base h hd

theorem length_toDigits_le_iff (h : 1 < base) {n width : Nat} :
    (toDigits base n).length ≤ width ↔ n < base ^ width := by
  rw [toDigits_eq h, List.length_reverse]
  exact Nat.digits_length_le_iff h n

/-- A number has no more digits in a larger base. -/
theorem length_toDigits_le_of_le {base' : Nat} (h : 1 < base) (le : base ≤ base') (n : Nat) :
    (toDigits base' n).length ≤ (toDigits base n).length := by
  have small : n < base ^ (toDigits base n).length := (length_toDigits_le_iff h).mp le_rfl
  have power : base ^ (toDigits base n).length ≤ base' ^ (toDigits base n).length :=
    Nat.pow_le_pow_left le _
  exact (length_toDigits_le_iff (h.trans_le le)).mpr (small.trans_le power)

/-! ## Read numerals -/

theorem ofDigits_lt (h : 1 < base) {digits : List Nat} (all : ∀ d ∈ digits, d < base) :
    ofDigits base digits < base ^ digits.length := by
  rw [ofDigits_eq, ← List.length_reverse]
  exact Nat.ofDigits_lt_base_pow_length h fun d hd => all d (List.mem_reverse.mp hd)

theorem ofDigits_append (digits more : List Nat) :
    ofDigits base (digits ++ more) =
      ofDigits base digits * base ^ more.length + ofDigits base more := by
  rw [ofDigits_eq, List.reverse_append, Nat.ofDigits_append, List.length_reverse, ← ofDigits_eq,
    ← ofDigits_eq, Nat.mul_comm, Nat.add_comm]

/-- Zeros in front count for nothing. -/
theorem ofDigits_replicate_zero_append (count : Nat) (digits : List Nat) :
    ofDigits base (List.replicate count 0 ++ digits) = ofDigits base digits := by
  rw [ofDigits_append, ofDigits_eq, List.reverse_replicate, Nat.ofDigits_replicate_zero,
    Nat.zero_mul, Nat.zero_add]

/-- **Numerals of one length are equal when their numbers are.** -/
theorem eq_of_ofDigits_eq (h : 1 < base) {digits digits' : List Nat}
    (length : digits.length = digits'.length) (all : ∀ d ∈ digits, d < base)
    (all' : ∀ d ∈ digits', d < base) (value : ofDigits base digits = ofDigits base digits') :
    digits = digits' := by
  rw [ofDigits_eq, ofDigits_eq] at value
  apply List.reverse_injective
  apply Nat.ofDigits_inj_of_len_eq h _ _ _ value
  · simpa using length
  · intro d hd
    exact all d (List.mem_reverse.mp hd)
  · intro d hd
    exact all' d (List.mem_reverse.mp hd)

/-- **A numeral that was read is written again** without the zeros in front. -/
theorem toDigits_ofDigits (h : 1 < base) {digits : List Nat} (all : ∀ d ∈ digits, d < base) :
    toDigits base (ofDigits base digits) = digits.dropWhile (· == 0) := by
  induction digits with
  | nil => simp [toDigits_eq h, ofDigits]
  | cons d digits ih =>
    obtain ⟨first, others⟩ := List.forall_mem_cons.mp all
    by_cases zero : d = 0
    · subst zero
      have same : ofDigits base (0 :: digits) = ofDigits base digits := by simp [ofDigits]
      rw [same, ih others, List.dropWhile_cons_of_pos (by decide)]
    · rw [List.dropWhile_cons_of_neg (by simpa using zero), ofDigits_eq, toDigits_eq h,
        Nat.digits_ofDigits base h _ _ _, List.reverse_reverse]
      · intro x hx
        exact all x (List.mem_reverse.mp hx)
      · intro filled
        simpa using zero

end Radix

/-! ## Byte strings -/

namespace Bytes

theorem toNat_eq_ofDigits (bs : Bytes) : toNat bs = Radix.ofDigits 256 (bs.map UInt8.toNat) := by
  rw [toNat, Radix.ofDigits, List.foldl_map]

/-- The bytes of a byte string are digits. -/
theorem lt_of_mem_map_toNat {bs : Bytes} {d : Nat} (hd : d ∈ bs.map UInt8.toNat) : d < 256 := by
  obtain ⟨b, -, rfl⟩ := List.mem_map.mp hd
  exact b.toNat_lt

theorem toNat_lt (bs : Bytes) : toNat bs < 256 ^ bs.length := by
  rw [toNat_eq_ofDigits, ← bs.length_map UInt8.toNat]
  exact Radix.ofDigits_lt (by decide) fun _ => lt_of_mem_map_toNat

/-- **A byte string is the number it stands for**, written in its own length. -/
theorem ofNat_toNat (bs : Bytes) : ofNat bs.length (toNat bs) = bs := by
  have one_one : Function.Injective (List.map UInt8.toNat) :=
    List.map_injective_iff.mpr fun _ _ => UInt8.toNat_inj.mp
  apply one_one
  apply Radix.eq_of_ofDigits_eq (by decide : 1 < 256) _ (fun _ => lt_of_mem_map_toNat)
    fun _ => lt_of_mem_map_toNat
  · rw [← toNat_eq_ofDigits, ← toNat_eq_ofDigits, toNat_ofNat, Nat.mod_eq_of_lt (toNat_lt bs)]
  · rw [List.length_map, List.length_map, length_ofNat]

end Bytes

end SwapPayout
