import SwapPayout.Proofs.Currency
import SwapPayout.Proofs.Token

/-!
# Which tokens are the ledger's own asset

The settings say so in two ways. A token is called native when its currency is the native name; what
is moved for it is drops when its currency is read as the ledger's own asset. But that has two
codes, its name and its digits. So a token whose currency is written in forty zeros is not called
native, and is paid in drops nevertheless: `zeroDollars_drops`. For all other tokens the two agree
(`isNative_of_ledgerAmount`).
-/

namespace SwapPayout.Token

open Currency (nativeName nativeDigits)

variable {t : Token} {units : Nat} {a : Amount}

/-- A token is called native by its currency alone. -/
theorem isNative_iff : t.isNative = true ↔ t.currencyCode = nativeName := by
  unfold isNative currencyCode
  cases t.asset with
  | none => exact iff_of_false Bool.false_ne_true (by decide)
  | some asset => exact beq_iff_eq

/-- Drops are moved for the ledger's own asset only. -/
theorem amount_isNative_iff (moved : t.ledgerAmount units = .ok a) :
    a.isNative = true ↔ t.currencyCode = nativeName ∨ t.currencyCode = nativeDigits := by
  obtain ⟨currency, code, -, ⟨own, -, rfl⟩ | ⟨other, issuer, quantity, -, -, rfl⟩⟩ :=
    ledgerAmount_eq_ok.mp moved
  · refine iff_of_true rfl (Currency.ofCode_eq_native.mp ?_)
    rw [code, Currency.isNative_iff.mp own]
  · refine iff_of_false Bool.false_ne_true fun native => other ?_
    have read := Currency.ofCode_eq_native.mpr native
    rw [code] at read
    exact Currency.isNative_iff.mpr (Except.ok.inj read)

/-- What is moved for the ledger's own asset is the units, whatever the decimals and the issuer. -/
theorem eq_native_of_isNative (moved : t.ledgerAmount units = .ok a) (native : a.isNative = true) :
    a = .native units := by
  obtain ⟨_, -, -, ⟨-, -, same⟩ | ⟨-, _, _, -, -, rfl⟩⟩ := ledgerAmount_eq_ok.mp moved
  · exact same
  · cases native

/-- **Drops are moved for tokens that are called native, and for those whose currency is forty
zeros.** For these the two disagree, and for no others. -/
theorem isNative_of_ledgerAmount (moved : t.ledgerAmount units = .ok a) :
    (a.isNative = true ↔ t.isNative = true ∨ t.currencyCode = nativeDigits) ∧
    (a.isNative = t.isNative ↔ t.currencyCode ≠ nativeDigits) ∧
    (t.currencyCode = nativeDigits → t.isNative = false ∧ a = .native units) := by
  have drops := amount_isNative_iff moved
  rw [← isNative_iff] at drops
  have called : t.currencyCode = nativeDigits → t.isNative = false := by
    intro digits
    rw [← Bool.not_eq_true, isNative_iff, digits]
    decide
  refine ⟨drops, ⟨fun same digits => ?_, fun others => ?_⟩, fun digits => ?_⟩
  · have paid := drops.mpr (.inr digits)
    rw [same, called digits] at paid
    cases paid
  · rw [Bool.eq_iff_iff, drops]
    exact or_iff_left others
  · exact ⟨called digits, eq_native_of_isNative moved (drops.mpr (.inr digits))⟩

/-- A token of the ledger's own asset, by its name. -/
def plainDrops : Token where
  tokenId := "XRP"
  decimals := 6
  contractAddress := ""
  asset := some .native

/-- For it the two agree. -/
theorem plainDrops_agree :
    plainDrops.ledgerAmount 1 = .ok (.native 1) ∧ plainDrops.isNative = true := by
  have moved : plainDrops.ledgerAmount 1 = .ok (.native 1) :=
    ledgerAmount_eq_ok.mpr ⟨.native, rfl, by decide, .inl ⟨by decide, by decide, rfl⟩⟩
  obtain ⟨-, agree, -⟩ := isNative_of_ledgerAmount moved
  exact ⟨moved, (agree.mpr (by decide)).symm⟩

/-- A token with an issuer, whose currency is written in forty zeros. -/
def zeroDollars : Token where
  tokenId := "USD"
  decimals := 18
  contractAddress := ""
  asset := some { currency := nativeDigits, issuer := "rpZNAnHcvr6TbaY7QJa9yrVfu6coDz9pPH" }

/-- **Drops are moved for a token that is not called native.** -/
theorem zeroDollars_drops :
    zeroDollars.ledgerAmount 1 = .ok (.native 1) ∧ zeroDollars.isNative = false := by
  have code : Currency.ofCode zeroDollars.currencyCode = .ok .native :=
    Currency.ofCode_eq_native.mpr (.inr rfl)
  refine ⟨ledgerAmount_eq_ok.mpr ⟨.native, code, by decide, .inl ?_⟩, by decide⟩
  exact ⟨by decide, by decide, rfl⟩

end SwapPayout.Token
