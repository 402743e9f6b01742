import SwapPayout.Error.Payout
import SwapPayout.Quantity.Basic

/-!
# The ledger, as a payout sees it

Two questions can be put to the ledger: what an account holds, and what it holds of an issued asset.
Either may fail to be answered; that an account or a trust line does not exist is an answer. Asking
may change the ledger's state, so two answers to one question need not agree.
-/

namespace SwapPayout

/-- What the ledger says of an account. -/
structure AccountState where
  address : String
  /-- The balance in drops. -/
  balance : UInt64
  /-- The sequence number of the account's next transaction. -/
  sequence : UInt32
  deriving DecidableEq, Repr

/-- A ledger with states of type `Λ`. -/
class Ledger (Λ : Type) where
  /-- What an account holds, if it exists. -/
  account : String → Λ → Except PayoutError (Option AccountState) × Λ
  /-- What an account holds of an issuer's currency, if it has a trust line for it. -/
  trustLine : (address currency issuer : String) → Λ → Except PayoutError (Option Quantity) × Λ

end SwapPayout
