import SwapPayout.Proofs.Amount.Form
import SwapPayout.Token

/-!
# What the ledger moves for a token

Units of a token become drops when its currency code is that of the ledger's own asset, and a
quantity of its issuer's currency otherwise. Which of the two it is depends on the code alone.
-/

namespace SwapPayout.Token

/-- **What the ledger moves for a number of units**, and when it moves anything. -/
theorem ledgerAmount_eq_ok {t : Token} {units : Nat} {a : Amount} :
    t.ledgerAmount units = .ok a ↔
      ∃ currency, Currency.ofCode t.currencyCode = .ok currency ∧ units < 2 ^ 63 ∧
        ((currency.isNative = true ∧ Amount.areDrops units = true ∧ a = .native units) ∨
          (¬ currency.isNative = true ∧ ∃ issuer quantity,
            AccountId.ofAddress t.issuerText = .ok issuer ∧
            Quantity.scaled units (-(t.decimals.toNat : Int)) = .ok quantity ∧
            a = .issued quantity currency issuer)) := by
  unfold ledgerAmount
  constructor
  · intro h
    obtain ⟨currency, code, h⟩ := bind_eq_ok.mp h
    obtain ⟨small, h⟩ := ite_error_eq_ok.mp h
    refine ⟨currency, mapError_eq_ok.mp code, Nat.lt_of_not_le small, ?_⟩
    by_cases own : currency.isNative = true
    · rw [if_pos own] at h
      exact .inl ⟨own, Amount.ofDrops_eq_ok.mp (mapError_eq_ok.mp h)⟩
    · rw [if_neg own] at h
      obtain ⟨issuer, hissuer, h⟩ := bind_eq_ok.mp h
      obtain ⟨quantity, hquantity, h⟩ := bind_eq_ok.mp h
      exact .inr ⟨own, issuer, quantity, mapError_eq_ok.mp hissuer, mapError_eq_ok.mp hquantity,
        (pure_eq_ok.mp h).symm⟩
  · rintro ⟨currency, code, small, kind⟩
    refine bind_eq_ok.mpr ⟨currency, mapError_eq_ok.mpr code, ?_⟩
    refine ite_error_eq_ok.mpr ⟨Nat.not_le.mpr small, ?_⟩
    rcases kind with ⟨own, drops⟩ | ⟨other, issuer, quantity, hissuer, hquantity, rfl⟩
    · rw [if_pos own]
      exact mapError_eq_ok.mpr (Amount.ofDrops_eq_ok.mpr drops)
    · rw [if_neg other]
      refine bind_eq_ok.mpr ⟨issuer, mapError_eq_ok.mpr hissuer, ?_⟩
      exact bind_eq_ok.mpr ⟨quantity, mapError_eq_ok.mpr hquantity, rfl⟩

/-- Drops that the ledger moves are drops that there can be. -/
theorem areDrops_of_ledgerAmount {t : Token} {units : Nat} {drops : Int}
    (h : t.ledgerAmount units = .ok (.native drops)) : Amount.areDrops drops = true := by
  obtain ⟨_, -, -, ⟨-, range, moved⟩ | ⟨-, _, _, -, -, moved⟩⟩ := ledgerAmount_eq_ok.mp h
  · cases moved
    exact range
  · cases moved

/-- What the ledger moves is an amount that a payment can move. -/
theorem movable_of_ledgerAmount {t : Token} {units : Nat} {a : Amount}
    (h : t.ledgerAmount units = .ok a) : a.Movable := by
  obtain ⟨currency, -, -, ⟨-, range, rfl⟩ | ⟨other, issuer, quantity, -, -, rfl⟩⟩ :=
    ledgerAmount_eq_ok.mp h
  · obtain ⟨low, high⟩ := Amount.areDrops_iff.mp range
    exact .native low high
  · exact .issued (mt beq_iff_eq.mpr other)

end SwapPayout.Token
