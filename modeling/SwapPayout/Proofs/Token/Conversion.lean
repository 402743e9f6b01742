import SwapPayout.Proofs.Currency
import SwapPayout.Proofs.Quantity.Rounding
import SwapPayout.Proofs.Token

/-!
# From units of a token to what the ledger moves

The router counts a token in its smallest units, without a bound; the ledger moves drops, of which
there are at most `10 ^ 17`, or quantities of sixteen digits. `Token.ledgerAmount` goes from the one
to the other, and `moves_ledgerAmount` says what it does for every token and every number of units:
drops are the units themselves, and a quantity is the number that the units stand for, cut toward
zero. So the ledger never moves more than was asked for.

Below `2 ^ 63` units nothing is too large, and with at most 255 decimals no exponent is too small to
be counted. But a number below `10 ^ (-81)` is too small to be kept: with more than eighty-one
decimals a few units are a quantity of zero.
-/

namespace SwapPayout

/-- A natural number has no sign to be scaled with. -/
theorem Quantity.scaled_natCast (n : Nat) (e : Int) : scaled n e = ofParts false n e := by
  have unsigned : decide ((n : Int) < 0) = false := decide_eq_false (Int.natCast_nonneg n).not_gt
  rw [scaled, unsigned, Int.natAbs_natCast]

namespace Token

/-- The number that units of a token stand for. -/
def worth (t : Token) (units : Nat) : ℚ := units * 10 ^ (-(t.decimals.toNat : ℤ))

variable {t : Token} {units : Nat} {quantity : Quantity}

/-! ## Scaling -/

/-- **Units are scaled by decimals as the number that they stand for.** -/
theorem rounded_scaled (t : Token) (units : Nat) :
    Quantity.Rounded false (t.worth units) (Quantity.scaled units (-(t.decimals.toNat : Int))) := by
  rw [Quantity.scaled_natCast]
  refine Quantity.rounded_ofParts false units _ fun _ => ?_
  have decimals := t.decimals.toNat_lt
  omega

/-- Decimals make no number greater. -/
theorem worth_lt (t : Token) (bounded : units < 10 ^ 96) :
    t.worth units < (10 : ℚ) ^ (96 : ℤ) := by
  have below : (units : ℚ) < (10 : ℚ) ^ (96 : ℤ) := by exact_mod_cast bounded
  refine (mul_le_of_le_one_right units.cast_nonneg ?_).trans_lt below
  exact zpow_le_one_of_nonpos₀ (by norm_num) (by omega)

/-- What a 64-bit integer can count is not too large to be scaled. -/
theorem exists_scaled (t : Token) (small : units < 2 ^ 63) :
    ∃ quantity, Quantity.scaled units (-(t.decimals.toNat : Int)) = .ok quantity := by
  have below := t.worth_lt (small.trans (by norm_num))
  rcases (rounded_scaled t units).cases with ⟨large, -⟩ | ⟨-, vanished⟩ | ⟨-, quantity, cut, -⟩
  · exact absurd below large.not_gt
  · exact ⟨_, vanished⟩
  · exact ⟨quantity, cut⟩

end Token

end SwapPayout
