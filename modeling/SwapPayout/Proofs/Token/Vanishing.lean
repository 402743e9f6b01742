import SwapPayout.Proofs.Quantity.Order
import SwapPayout.Proofs.Token.Conversion

/-!
# Payouts of nothing

Quantities begin at `10 ^ (-81)`. What is smaller is no error: it is the quantity zero, whoever asks
for it. So units of an issued token can be moved as nothing at all, when there are more than
eighty-one decimals and few units. `vanishing` says that this is the one way in which some units
become nothing, and that it happens to all units that stand for so little: below `10 ^ (-81)` the
outcome is a quantity of zero and not a refusal, from there on whatever is moved is something.

Drops do not vanish, since nothing is scaled.
-/

namespace SwapPayout

/-- How much an amount moves: drops, or so much of the issued asset. -/
def Amount.value : Amount → ℚ
  | .native drops => drops
  | .issued quantity _ _ => quantity.value

namespace Token

variable {t : Token} {units : Nat} {quantity : Quantity} {a : Amount}

/-- Scaled units are zero when the number that they stand for is too small to be kept. -/
theorem scaled_value_eq_zero_iff
    (scaled : Quantity.scaled units (-(t.decimals.toNat : Int)) = .ok quantity) :
    quantity.value = 0 ↔ t.worth units < (10 : ℚ) ^ (-81 : ℤ) := by
  have rounded := rounded_scaled t units
  rw [scaled] at rounded
  constructor
  · intro zero
    rcases rounded.cases with ⟨-, _, ⟨⟩⟩ | ⟨small, -⟩ | ⟨-, cut, same, isCut⟩
    · exact small
    · obtain rfl := Except.ok.inj same
      exact absurd zero (Quantity.value_ne_zero isCut.full)
  · intro small
    obtain rfl := Except.ok.inj (rounded.vanished.mpr small)
    exact Quantity.value_zero

/-- What some units are moved as is nothing when they are units of an issued asset that stand for
too little. -/
theorem value_eq_zero_iff (some : units ≠ 0) (moved : t.ledgerAmount units = .ok a) :
    a.value = 0 ↔ a.isNative = false ∧ t.worth units < (10 : ℚ) ^ (-81 : ℤ) := by
  obtain ⟨currency, -, -, ⟨-, -, rfl⟩ | ⟨-, issuer, quantity, -, scaled, rfl⟩⟩ :=
    ledgerAmount_eq_ok.mp moved
  · have drops : (Amount.native units).value ≠ 0 := by
      show ((units : Int) : ℚ) ≠ 0
      exact_mod_cast some
    exact iff_of_false drops fun h => Bool.noConfusion h.1
  · rw [Amount.value, scaled_value_eq_zero_iff scaled]
    exact (and_iff_right rfl).symm

/-- Units of an issued asset that stand for too little are moved as a quantity of zero, and not
refused. -/
theorem ledgerAmount_of_little {currency : Currency} {issuer : AccountId}
    (code : Currency.ofCode t.currencyCode = .ok currency) (other : currency ≠ .native)
    (address : AccountId.ofAddress t.issuerText = .ok issuer) (small : units < 2 ^ 63)
    (little : t.worth units < (10 : ℚ) ^ (-81 : ℤ)) :
    t.ledgerAmount units = .ok (.issued .zero currency issuer) := by
  have vanished := (rounded_scaled t units).vanished.mpr little
  refine ledgerAmount_eq_ok.mpr ⟨currency, code, small, .inr ⟨?_, ?_⟩⟩
  · exact mt Currency.isNative_iff.mp other
  · exact ⟨issuer, .zero, address, vanished, rfl⟩

/-- **Some units become nothing in one way**: they are units of an issued asset, and what they stand
for is below all quantities. Then it is a quantity of zero that is moved, and no refusal. -/
theorem vanishing (t : Token) (some : units ≠ 0) :
    (∀ a, t.ledgerAmount units = .ok a →
      (a.value = 0 ↔ a.isNative = false ∧ t.worth units < (10 : ℚ) ^ (-81 : ℤ))) ∧
    ∀ currency issuer, Currency.ofCode t.currencyCode = .ok currency → currency ≠ .native →
      AccountId.ofAddress t.issuerText = .ok issuer → units < 2 ^ 63 →
      t.worth units < (10 : ℚ) ^ (-81 : ℤ) →
        t.ledgerAmount units = .ok (.issued .zero currency issuer) :=
  ⟨fun _ => value_eq_zero_iff some, fun _ _ => ledgerAmount_of_little⟩

/-- A token of dollars with more decimals than quantities have. -/
def finestDollars : Token where
  tokenId := "USD"
  decimals := 82
  contractAddress := ""
  asset := some { currency := "USD", issuer := "rpZNAnHcvr6TbaY7QJa9yrVfu6coDz9pPH" }

theorem finestDollars_code :
    Currency.ofCode finestDollars.currencyCode = .ok (.standard 85 83 68) := by
  decide

theorem finestDollars_issuer :
    ∃ issuer, AccountId.ofAddress finestDollars.issuerText = .ok issuer :=
  exists_eq_ok (by decide +kernel)

theorem finestDollars_worth (units : Nat) :
    finestDollars.worth units = units * 10 ^ (-82 : ℤ) :=
  rfl

/-- There nine units are nothing, and ten are something. -/
theorem finestDollars_threshold :
    ∃ issuer quantity,
      finestDollars.ledgerAmount 9 = .ok (.issued .zero (.standard 85 83 68) issuer) ∧
      finestDollars.ledgerAmount 10 = .ok (.issued quantity (.standard 85 83 68) issuer) ∧
      quantity.value ≠ 0 := by
  obtain ⟨issuer, address⟩ := finestDollars_issuer
  obtain ⟨quantity, scaled⟩ := finestDollars.exists_scaled (show 10 < 2 ^ 63 by decide)
  have moved : finestDollars.ledgerAmount 10 =
      .ok (.issued quantity (.standard 85 83 68) issuer) :=
    ledgerAmount_eq_ok.mpr ⟨_, finestDollars_code, by decide,
      .inr ⟨by decide, issuer, quantity, address, scaled, rfl⟩⟩
  obtain ⟨-, little⟩ := vanishing finestDollars (show 9 ≠ 0 by decide)
  obtain ⟨nothing, -⟩ := vanishing finestDollars (show 10 ≠ 0 by decide)
  refine ⟨issuer, quantity, ?_, moved, ?_⟩
  · refine little _ _ finestDollars_code (by decide) address (by decide) ?_
    rw [finestDollars_worth]
    norm_num
  · intro zero
    have below := ((nothing _ moved).mp zero).2
    rw [finestDollars_worth] at below
    norm_num at below

/-- **One unit can be moved as nothing**, though it is not nothing. -/
theorem finestDollars_nothing :
    ∃ issuer, finestDollars.ledgerAmount 1 = .ok (.issued .zero (.standard 85 83 68) issuer) ∧
      (Amount.issued .zero (.standard 85 83 68) issuer).value = 0 ∧
      finestDollars.worth 1 ≠ 0 := by
  obtain ⟨issuer, address⟩ := finestDollars_issuer
  refine ⟨issuer, ?_, Quantity.value_zero, ?_⟩
  · refine ledgerAmount_of_little finestDollars_code (by decide) address (by decide) ?_
    rw [finestDollars_worth]
    norm_num
  · rw [finestDollars_worth]
    norm_num

end Token

end SwapPayout
