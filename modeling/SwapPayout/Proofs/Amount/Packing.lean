import SwapPayout.Proofs.Amount.Reading
import SwapPayout.Proofs.Quantity.Order
import SwapPayout.Proofs.Word

/-!
# How amounts are packed

The first eight bytes of an amount are a word put together from parts: a mark and the drops; or the
mark of issued assets, that of what is above zero, the exponent from 1, and the mantissa. The parts
are shifted into place and laid over each other with or. They are stacked (`Amount.stacked_parts`),
so no two of them share a bit, and the word is their sum, which is what the form of an amount holds
(`Amount.exists_behind_word`).

`Amount.forms_told_apart` puts together what follows. The first bit says which kind of amount it is,
and so how long the form is; no form is the beginning of another amount's, whatever stands behind
the two; and above zero the words are in the order of the quantities, since in a word as in a number
a greater exponent makes up for any mantissa.
-/

namespace SwapPayout

open Word (join Stacked and_eq_zero toNat_ofInt)

/-! ## The parts of amounts -/

/-- The first bit: the amount is of an issued asset. -/
def issuedMark : UInt64 := 0x8000000000000000

/-- The second bit: the amount is not below zero. -/
def positiveMark : UInt64 := 0x4000000000000000

/-- The parts of a quantity's word. Zero is the first mark alone. -/
def Quantity.parts (q : Quantity) : List UInt64 :=
  if q.isZero then [issuedMark]
  else [issuedMark, if q.negative then 0 else positiveMark, UInt64.ofInt (q.exponent + 97) <<< 54,
    UInt64.ofNat q.mantissa]

/-- The parts of the word that an amount starts with. -/
def Amount.parts : Amount → List UInt64
  | native drops => [positiveMark, UInt64.ofInt drops]
  | issued quantity _ _ => quantity.parts

namespace Quantity

variable {q : Quantity}

theorem toNat_exponent (full : q.isFull) :
    (UInt64.ofInt (q.exponent + 97) <<< 54).toNat = 2 ^ 54 * (q.exponent + 97).toNat := by
  have range := range_of_isFull full
  have place : (54 : UInt64).toNat % 64 = 54 := rfl
  rw [UInt64.toNat_shiftLeft, toNat_ofInt (by omega) (by omega), place, Nat.shiftLeft_eq,
    Nat.mul_comm, Nat.mod_eq_of_lt (by omega)]

theorem toNat_mantissa (full : q.isFull) : (UInt64.ofNat q.mantissa).toNat = q.mantissa := by
  have fits := full.2
  rw [UInt64.toNat_ofNat', Nat.mod_eq_of_lt (by omega)]

/-- **The parts of a quantity's word are stacked**, at 63, 62, 54 and 0. -/
theorem stacked_parts (q : Quantity) : Stacked 64 q.parts := by
  have first : issuedMark.toNat < 2 ^ 64 ∧ 2 ^ 63 ∣ issuedMark.toNat := by decide
  rcases q.eq_zero_or_isFull with rfl | full
  · exact .cons (by decide : 63 ≤ 64) first.1 first.2 .nil
  · have range := range_of_isFull full
    have fits := full.2
    rw [parts, if_neg (not_isZero full)]
    refine .cons (by decide : 63 ≤ 64) first.1 first.2 ?_
    refine .cons (by decide : 62 ≤ 63) ?_ ?_ ?_
    · split <;> decide
    · split <;> decide
    refine .cons (by decide : 54 ≤ 62) ?_ ?_ ?_
    · rw [toNat_exponent full]
      omega
    · rw [toNat_exponent full]
      exact Nat.dvd_mul_right _ _
    refine .cons (by decide : 0 ≤ 54) ?_ ?_ .nil
    · rw [toNat_mantissa full]
      omega
    · exact Nat.one_dvd _

/-- **The parts of a quantity's word make its code.** -/
theorem toNat_join_parts (q : Quantity) : (join q.parts).toNat = q.code := by
  rw [q.stacked_parts.toNat_join]
  rcases q.eq_zero_or_isFull with rfl | full
  · rfl
  · have mark : issuedMark.toNat = 2 ^ 63 := rfl
    have sign : (if q.negative then 0 else positiveMark).toNat
        = if q.negative then 0 else 2 ^ 62 := by
      split <;> rfl
    rw [parts, code, if_neg (not_isZero full), if_neg (not_isZero full)]
    simp only [List.foldr_cons, List.foldr_nil, mark, sign,
      toNat_exponent full, toNat_mantissa full]
    omega

/-! ## Codes -/

theorem toNat_toBytes (q : Quantity) : Bytes.toNat q.toBytes = q.code := by
  rw [toBytes, Bytes.toNat_ofNat]
  exact Nat.mod_eq_of_lt q.code_lt

theorem toBytes_inj {q r : Quantity} : q.toBytes = r.toBytes ↔ q = r := by
  refine ⟨fun same => ?_, congrArg toBytes⟩
  have codes : q.code = r.code := by rw [← toNat_toBytes, same, toNat_toBytes]
  have read := ofCode?_code q
  rw [codes, ofCode?_code r] at read
  exact (Option.some.inj read).symm

/-- Above zero both marks are set. -/
theorem code_of_pos (positive : 0 < q.value) :
    q.code = 2 ^ 63 + 2 ^ 62 + (q.exponent + 97).toNat * 2 ^ 54 + q.mantissa := by
  have full := (isFull_of_value_pos positive).1
  have sign : ¬ q.negative = true := mt (value_neg_iff_of_isFull full).mpr positive.not_gt
  rw [code, if_neg (not_isZero full), if_neg sign]

/-- **Above zero a greater quantity has a greater code**: its exponent is greater, which makes up for
any mantissa, or its mantissa. -/
theorem code_lt_of_value_lt {q r : Quantity} (hq : 0 < q.value) (hr : 0 < r.value)
    (less : q.value < r.value) : q.code < r.code := by
  obtain ⟨fq, vq⟩ := isFull_of_value_pos hq
  obtain ⟨fr, vr⟩ := isFull_of_value_pos hr
  have fits := fq.2
  have low := (range_of_isFull fq).1
  have order : compareMagnitude q r = .lt := by
    rwa [compareMagnitude_eq fq fr, compare_lt_iff_lt, ← vq, ← vr]
  rw [code_of_pos hq, code_of_pos hr]
  rcases Ordering.then_eq_lt.mp order with exponent | ⟨exponent, mantissa⟩
  · rw [compare_lt_iff_lt] at exponent
    omega
  · rw [compare_eq_iff_eq] at exponent
    rw [compare_lt_iff_lt] at mantissa
    omega

/-- **Above zero the codes are in the order of the quantities.** -/
theorem compare_code {q r : Quantity} (hq : 0 < q.value) (hr : 0 < r.value) :
    compare q.code r.code = compare q.value r.value := by
  rcases lt_trichotomy q.value r.value with less | same | more
  · rw [compare_lt_iff_lt.mpr less, compare_lt_iff_lt.mpr (code_lt_of_value_lt hq hr less)]
  · obtain rfl := value_injective same
    rw [compare_eq_iff_eq.mpr rfl, compare_eq_iff_eq.mpr rfl]
  · rw [compare_gt_iff_gt.mpr more, compare_gt_iff_gt.mpr (code_lt_of_value_lt hr hq more)]

/-- **How a quantity is coded.** -/
structure Coded (q : Quantity) : Prop where
  /-- Unless it is zero, its exponent is counted from 1. -/
  exponent : q ≠ zero → 1 ≤ q.exponent + 97 ∧ q.exponent + 97 ≤ 177
  mantissa : q.mantissa < 2 ^ 54
  /-- No other quantity has its code; none other than zero has that of zero. -/
  alone : ∀ r : Quantity, q.toBytes = r.toBytes ↔ q = r
  ordered : ∀ r : Quantity, 0 < q.value → 0 < r.value →
    compare (Bytes.toNat q.toBytes) (Bytes.toNat r.toBytes) = compare q.value r.value

theorem coded (q : Quantity) : q.Coded where
  exponent nonzero := by
    have range := range_of_isFull (q.eq_zero_or_isFull.resolve_left nonzero)
    omega
  mantissa := by
    have := q.normal
    omega
  alone r := toBytes_inj
  ordered r hq hr := by rw [toNat_toBytes, toNat_toBytes, compare_code hq hr]

end Quantity

/-! ## Forms -/

namespace Amount

/-- The first bit of eight bytes is that of the number in them. -/
theorem firstBit_ofNat {n : Nat} (fits : n < 2 ^ 64) (rest : Bytes) :
    ((Bytes.ofNat 8 n ++ rest).headD 0).toNat.testBit 7 = decide (2 ^ 63 ≤ n) := by
  rw [Bytes.ofNat, List.cons_append, List.headD_cons, UInt8.toNat_ofNat',
    Nat.testBit_eq_decide_div_mod_eq, decide_eq_decide]
  omega

/-- **The parts of drops are stacked**: they end below both marks. -/
theorem stacked_drops {drops : Int} (low : 0 ≤ drops) (high : drops ≤ 10 ^ 17) :
    Stacked 62 [UInt64.ofInt drops] := by
  refine .cons (by decide : 0 ≤ 62) ?_ (Nat.one_dvd _) .nil
  rw [toNat_ofInt low (by omega)]
  omega

theorem stacked_parts {a : Amount} (movable : a.Movable) : Stacked 64 a.parts := by
  cases movable with
  | native low high =>
    exact .cons (by decide : 62 ≤ 64) (by decide) (by decide) (stacked_drops low high)
  | @issued quantity currency issuer other => exact quantity.stacked_parts

/-- **A form starts with the word of its amount.** -/
theorem exists_behind_word {a : Amount} {form : Bytes} (h : a.toBytes = .ok form) :
    ∃ rest, form = Bytes.ofNat 8 (join a.parts).toNat ++ rest ∧
      rest.length = (if a.isNative then 0 else 40) ∧
      (2 ^ 63 ≤ (join a.parts).toNat ↔ a.isNative = false) := by
  cases a with
  | native drops =>
    obtain ⟨range, rfl⟩ := toBytes_native_eq_ok.mp h
    obtain ⟨low, high⟩ := areDrops_iff.mp range
    have word : (join (native drops).parts).toNat = 2 ^ 62 + drops.toNat := by
      have mark : positiveMark.toNat = 2 ^ 62 := rfl
      rw [(stacked_parts (.native low high)).toNat_join]
      simp only [parts, List.foldr_cons, List.foldr_nil, mark,
        toNat_ofInt low (show drops < 2 ^ 64 by omega), Nat.add_zero]
    rw [word]
    exact ⟨[], (List.append_nil _).symm, rfl, iff_of_false (by omega) Bool.true_eq_false.mp⟩
  | issued quantity currency issuer =>
    obtain ⟨-, rfl⟩ := toBytes_issued_eq_ok.mp h
    refine ⟨currency.bytes ++ issuer.bytes, ?_, ?_, ?_⟩
    · rw [parts, quantity.toNat_join_parts, Quantity.toBytes]
    · rw [List.length_append, currency.length_bytes, issuer.length_bytes]
      rfl
    · rw [parts, quantity.toNat_join_parts]
      exact iff_of_true quantity.le_code rfl

/-- **What the form of an amount is.** -/
structure Packed (a : Amount) (form : Bytes) : Prop where
  /-- The first bit says which kind of amount it is, and so how long the form is. -/
  firstBit : (form.headD 0).toNat.testBit 7 = !a.isNative
  length : form.length = if a.isNative then 8 else 48
  /-- The first eight bytes are the parts laid over each other, and no two of them share a bit. -/
  word : form.take 8 = Bytes.ofNat 8 (join a.parts).toNat
  apart : a.parts.Pairwise fun v w => v &&& w = 0
  /-- Drops do not reach the marks. -/
  drops : ∀ n, a = native n → UInt64.ofInt n &&& (issuedMark ||| positiveMark) = 0
  /-- The form is no beginning of another amount's, whatever stands behind the two. -/
  alone : ∀ (b : Amount) (form' : Bytes), b.toBytes = .ok form' →
    ∀ x y : Bytes, form ++ x = form' ++ y ↔ a = b ∧ x = y

theorem packed_of_toBytes {a : Amount} {form : Bytes} (h : a.toBytes = .ok form) :
    a.Packed form := by
  have movable : a.Movable := exists_toBytes_eq_ok.mp ⟨form, h⟩
  have stacked := stacked_parts movable
  obtain ⟨rest, rfl, length, marked⟩ := exists_behind_word h
  have eight := Bytes.length_ofNat 8 (join a.parts).toNat
  refine { firstBit := ?_, length := ?_, word := ?_, apart := stacked.apart, drops := ?_,
           alone := fun b form' hb => Wire.told_apart_of_readsBack readsBack h hb }
  · rw [firstBit_ofNat stacked.join_lt]
    cases kind : a.isNative
    · exact decide_eq_true (marked.mpr kind)
    · exact decide_eq_false (mt marked.mp (by simp only [kind, Bool.true_eq_false, not_false_iff]))
  · rw [List.length_append, eight, length]
    split <;> rfl
  · rw [List.take_append_of_le_length eight.ge, List.take_of_length_le eight.le]
  · rintro n rfl
    cases movable with
    | native low high =>
      rw [UInt64.and_comm]
      refine and_eq_zero (by decide : 2 ^ 62 ∣ (issuedMark ||| positiveMark).toNat) ?_
      exact (stacked_drops low high).lt_of_mem _ (List.mem_singleton_self _)

/-- **Amounts are told apart by their forms**, and above zero quantities are ordered by theirs. -/
theorem forms_told_apart :
    (∀ (a : Amount) (form : Bytes), a.toBytes = .ok form → a.Packed form) ∧
      ∀ q : Quantity, q.Coded :=
  ⟨fun _ _ => packed_of_toBytes, Quantity.coded⟩

/-- One unit of an issued asset. -/
def oneUnit : Quantity := ⟨false, 10 ^ 15, -15, .inr (by decide)⟩

/-- The quantity before it, with the greater mantissa. -/
def belowUnit : Quantity := ⟨false, 10 ^ 16 - 1, -16, .inr (by decide)⟩

/-- None of an issued asset. -/
def noDollars : Amount := issued .zero (.standard 85 83 68) ⟨List.replicate 20 1, rfl⟩

/-- No drops and none of an issued asset have different forms, also when bytes follow them, and the
code of one unit is greater than that of the quantity before it. -/
theorem nothing_told_apart :
    (∃ form form', (native 0).toBytes = .ok form ∧ noDollars.toBytes = .ok form' ∧
      ∀ x y, form ++ x ≠ form' ++ y) ∧
    belowUnit ≠ .zero ∧ 1 ≤ belowUnit.exponent + 97 ∧
    0 < belowUnit.value ∧ 0 < oneUnit.value ∧
    compare (Bytes.toNat belowUnit.toBytes) (Bytes.toNat oneUnit.toBytes) = .lt := by
  obtain ⟨form, made⟩ : ∃ form, (native 0).toBytes = .ok form := exists_eq_ok (by decide)
  obtain ⟨form', made'⟩ : ∃ form', noDollars.toBytes = .ok form' := exists_eq_ok (by decide)
  have packed := forms_told_apart.1 _ _ made
  have coded := forms_told_apart.2 belowUnit
  have nonzero : belowUnit ≠ .zero := by decide
  have low : 0 < belowUnit.value := by norm_num [Quantity.value, Quantity.magnitude, belowUnit]
  have high : 0 < oneUnit.value := by norm_num [Quantity.value, Quantity.magnitude, oneUnit]
  refine ⟨⟨form, form', made, made', fun x y same => ?_⟩, nonzero, (coded.exponent nonzero).1, low,
    high, ?_⟩
  · have kinds := congrArg isNative ((packed.alone _ _ made' x y).mp same).1
    exact absurd kinds Bool.true_eq_false.mp
  · rw [coded.ordered oneUnit low high, compare_lt_iff_lt]
    norm_num [Quantity.value, Quantity.magnitude, belowUnit, oneUnit]

end Amount

end SwapPayout
