import SwapPayout.Proofs.Outcome
import SwapPayout.Wire.Length

/-!
# What announces a length

A length is announced by one, two or three bytes, and the first of them says how many there are. The
bytes are sums and pieces of numbers, computed in bytes. `Announces` says which numbers they are
meant to be, and `announces_of_lengthHeader` that they are these: no sum and no piece is too large
for its byte, and the first byte stays in the range that its header is known by. What is too long
for three bytes is refused, and nothing else (`lengthHeader_eq_error`).
-/

namespace SwapPayout.Wire

variable {length : Nat}

/-- **The bytes that announce a length**, as numbers: a piece of a number is what is left of it when
it is shifted and masked. -/
inductive Announces (length : Nat) : Bytes → Prop where
  | short {first : UInt8} (high : length ≤ 192) (itself : first.toNat = length) :
      Announces length [first]
  | middle {first second : UInt8} (low : 192 < length) (high : length ≤ 12480)
      (range : 193 ≤ first.toNat ∧ first.toNat ≤ 240)
      (upper : first.toNat = 193 + (length - 193) >>> 8)
      (lower : second.toNat = (length - 193) &&& 0xff) :
      Announces length [first, second]
  | long {first second third : UInt8} (low : 12480 < length) (high : length ≤ 918744)
      (range : 241 ≤ first.toNat ∧ first.toNat ≤ 254)
      (upper : first.toNat = 241 + (length - 12481) >>> 16)
      (middle : second.toNat = (length - 12481) >>> 8 &&& 0xff)
      (lower : third.toNat = (length - 12481) &&& 0xff) :
      Announces length [first, second, third]

theorem and_byte (n : Nat) : n &&& 0xff = n % 256 := Nat.and_two_pow_sub_one_eq_mod n 8

/-- What a byte holds of a number are its eight low bits. -/
theorem toNat_ofNat_eq_and (n : Nat) : (UInt8.ofNat n).toNat = n &&& 0xff :=
  UInt8.toNat_ofNat'.trans (and_byte n).symm

/-- A number is added to a byte that has room for it. -/
theorem toNat_add_ofNat {start : UInt8} {n : Nat} (room : start.toNat + n < 256) :
    (start + UInt8.ofNat n).toNat = start.toNat + n := by
  rw [UInt8.toNat_add, UInt8.toNat_ofNat']
  omega

/-- The header of a length, in each of the three ranges. -/
theorem lengthHeader_eq_ok {header : Bytes} :
    lengthHeader length = .ok header ↔
      (length ≤ 192 ∧ header = [UInt8.ofNat length]) ∨
      (192 < length ∧ length ≤ 12480 ∧
        header = [193 + UInt8.ofNat ((length - 193) / 256), UInt8.ofNat (length - 193)]) ∨
      (12480 < length ∧ length ≤ 918744 ∧
        header = [241 + UInt8.ofNat ((length - 12481) / 65536),
          UInt8.ofNat ((length - 12481) / 256), UInt8.ofNat (length - 12481)]) := by
  unfold lengthHeader maxShort maxMiddle maxLength
  split
  · next short => simp [short, eq_comm, Nat.not_lt.mpr short, show ¬ 12480 < length by omega]
  · next long =>
    split
    · next middle => simp [long, middle, eq_comm, Nat.lt_of_not_le long, Nat.not_lt.mpr middle]
    · next longer => simp [long, longer, ite_ok_eq_ok, Nat.lt_of_not_le longer]

/-- **No byte of a header wraps around.** -/
theorem announces_of_lengthHeader {header : Bytes} (h : lengthHeader length = .ok header) :
    Announces length header := by
  rcases lengthHeader_eq_ok.mp h with ⟨high, rfl⟩ | ⟨low, high, rfl⟩ | ⟨low, high, rfl⟩
  · refine .short high ?_
    rw [UInt8.toNat_ofNat']
    omega
  · have upper : (193 + UInt8.ofNat ((length - 193) / 256)).toNat = 193 + (length - 193) / 256 :=
      toNat_add_ofNat (by simp only [UInt8.reduceToNat]; omega)
    refine .middle low high (by omega) ?_ (toNat_ofNat_eq_and _)
    rw [upper, Nat.shiftRight_eq_div_pow]
  · have upper : (241 + UInt8.ofNat ((length - 12481) / 65536)).toNat
        = 241 + (length - 12481) / 65536 :=
      toNat_add_ofNat (by simp only [UInt8.reduceToNat]; omega)
    refine .long low high (by omega) ?_ ?_ (toNat_ofNat_eq_and _)
    · rw [upper, Nat.shiftRight_eq_div_pow]
    · rw [toNat_ofNat_eq_and, Nat.shiftRight_eq_div_pow]

/-- **A length is refused when it is too large**, and for no other reason. -/
theorem lengthHeader_eq_error {cause : FormatError} :
    lengthHeader length = .error cause ↔
      918744 < length ∧ cause = .binary s!"variable length {length} exceeds {maxLength}" := by
  unfold lengthHeader maxShort maxMiddle
  split_ifs with short middle long
  · exact iff_of_false nofun (by omega)
  · exact iff_of_false nofun (by omega)
  · exact iff_of_false nofun (Nat.not_lt.mpr long ·.1)
  · rw [Except.error.injEq, eq_comm]
    exact (and_iff_right (Nat.lt_of_not_le long)).symm

theorem exists_lengthHeader_eq_ok :
    (∃ header, lengthHeader length = .ok header) ↔ length ≤ 918744 := by
  rw [← not_iff_not, ← exists_eq_error_iff, Nat.not_le]
  simp only [lengthHeader_eq_error, exists_and_left, exists_eq, and_true]

end SwapPayout.Wire
