import SwapPayout.Bytes

/-!
# Words put together from parts

A word of 64 bits holds several numbers when each has bits of its own. The numbers are shifted into
place and laid over each other with or, and that loses nothing as long as no two of them share a
bit. `Stacked` says so in numbers: every part ends below the place where the one before it starts.
Then no two parts share a bit (`Stacked.apart`), and the word is their sum (`Stacked.toNat_join`).

Nothing here is about payouts.
-/

namespace SwapPayout.Word

/-- Parts of a word, laid over each other. -/
def join (parts : List UInt64) : UInt64 := parts.foldr (· ||| ·) 0

/-- Parts of a word, the highest first: a part ends below the top, and has no bit below its own
place, which is the top of the part that follows. -/
inductive Stacked : (top : Nat) → List UInt64 → Prop where
  | nil {top : Nat} : Stacked top []
  | cons {top place : Nat} {part : UInt64} {parts : List UInt64} (le : place ≤ top)
      (below : part.toNat < 2 ^ top) (above : 2 ^ place ∣ part.toNat)
      (rest : Stacked place parts) : Stacked top (part :: parts)

theorem toNat_ofInt {i : Int} (low : 0 ≤ i) (high : i < 2 ^ 64) :
    (UInt64.ofInt i).toNat = i.toNat := by
  rw [UInt64.ofInt, UInt64.toNat_ofNat', Int.emod_eq_of_lt low high]
  omega

/-! ## Two parts -/

section

variable {v w : UInt64} {place : Nat}

/-- What stands above a place shares no bit with what ends below it. -/
theorem and_eq_zero (above : 2 ^ place ∣ v.toNat) (below : w.toNat < 2 ^ place) :
    v &&& w = 0 := by
  obtain ⟨n, hn⟩ := above
  apply UInt64.toNat_inj.mp
  apply Nat.eq_of_testBit_eq
  intro i
  show _ = Nat.testBit 0 i
  rw [UInt64.toNat_and, hn, Nat.testBit_and, Nat.testBit_two_pow_mul, Nat.zero_testBit]
  by_cases high : place ≤ i
  · have fits : w.toNat < 2 ^ i := Nat.lt_of_lt_of_le below (Nat.pow_le_pow_right (by decide) high)
    rw [Nat.testBit_lt_two_pow fits, Bool.and_false]
  · rw [decide_eq_false high, Bool.false_and, Bool.false_and]

theorem toNat_or (above : 2 ^ place ∣ v.toNat) (below : w.toNat < 2 ^ place) :
    (v ||| w).toNat = v.toNat + w.toNat := by
  obtain ⟨n, hn⟩ := above
  rw [UInt64.toNat_or, hn, ← Nat.two_pow_add_eq_or_of_lt below]

end

/-! ## All parts -/

namespace Stacked

variable {top : Nat} {parts : List UInt64}

theorem lt_of_mem (h : Stacked top parts) : ∀ part ∈ parts, part.toNat < 2 ^ top := by
  induction h with
  | nil => nofun
  | cons le below above rest ih =>
    intro part member
    rcases List.mem_cons.mp member with rfl | member
    · exact below
    · exact Nat.lt_of_lt_of_le (ih part member) (Nat.pow_le_pow_right (by decide) le)

/-- **Stacked parts share no bit.** -/
theorem apart (h : Stacked top parts) : parts.Pairwise fun v w => v &&& w = 0 := by
  induction h with
  | nil => exact .nil
  | cons le below above rest ih =>
    exact .cons (fun w member => and_eq_zero above (rest.lt_of_mem w member)) ih

theorem join_lt (h : Stacked top parts) : (join parts).toNat < 2 ^ top := by
  induction h with
  | nil => exact Nat.two_pow_pos _
  | @cons top place part parts le below above rest ih =>
    show (part ||| join parts).toNat < 2 ^ top
    rw [UInt64.toNat_or]
    have lower : 2 ^ place ≤ 2 ^ top := Nat.pow_le_pow_right (by decide) le
    exact Nat.or_lt_two_pow below (Nat.lt_of_lt_of_le ih lower)

/-- **Stacked parts that are laid over each other add up.** -/
theorem toNat_join (h : Stacked top parts) :
    (join parts).toNat = parts.foldr (fun part sum => part.toNat + sum) 0 := by
  induction h with
  | nil => rfl
  | @cons top place part parts le below above rest ih =>
    show (part ||| join parts).toNat = _
    rw [toNat_or above rest.join_lt, ih, List.foldr_cons]

end Stacked

end SwapPayout.Word
