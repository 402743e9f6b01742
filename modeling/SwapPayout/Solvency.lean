import SwapPayout.Settings
import SwapPayout.World

/-!
# Solvency

Before a payment is built, its two ends are checked. The ledger requires every account to keep a
reserve: the sender must still have it when the amount and a margin for the fee are gone, the
receiver when the amount has come. A sender of an issued asset must hold as much of it. An account
or a trust line that does not exist holds nothing, but a ledger that does not answer says nothing.
-/

namespace SwapPayout

/-- What accounts must keep, in drops. -/
structure Reserves where
  required : UInt64 := 10000000
  /-- What a sender must keep on top of the payment. -/
  margin : UInt64 := 100000
  deriving DecidableEq, Repr

/-- The reserves of a chain: its own where its settings name them. -/
def ChainSettings.reserves (chain : ChainSettings) : Reserves :=
  let usual : Reserves := {}
  { required := chain.reserve.getD usual.required
    margin := chain.margin.getD usual.margin }

/-! ## Movements -/

/-- What a payment does to a balance of drops. -/
inductive Movement where
  | debit (drops : UInt64)
  | credit (drops : UInt64)
  | unmoved
  deriving DecidableEq, Repr

namespace Movement

/-- What a balance becomes, which may be less than nothing. -/
def result (movement : Movement) (balance : UInt64) : Int :=
  match movement with
  | debit drops => balance.toNat - drops.toNat
  | credit drops => balance.toNat + drops.toNat
  | unmoved => balance.toNat

/-- Does a balance still cover the reserve after the movement? -/
def leavesReserve (movement : Movement) (balance required : UInt64) : Bool :=
  (required.toNat : Int) ≤ movement.result balance

/-- The cause that says that an account falls short of its reserve: only who pays is a sender. -/
def shortfall (movement : Movement) (account : String) : PayoutError :=
  match movement with
  | debit _ => .senderShort account
  | credit _ | unmoved => .receiverShort account

end Movement

/-- The sum of two numbers of drops, or the greatest number when it is beyond that. -/
def addSaturating (a b : UInt64) : UInt64 :=
  if a.toNat + b.toNat < 2 ^ 64 then a + b else 0xffffffffffffffff

/-! ## Checks -/

section

variable {Λ Κ Ω : Type} [Ledger Λ]

def dropsHeld (account : String) : Consulting Λ Κ Ω UInt64 := do
  let state ← (World.account account).mapError fun e => .balanceUnreadable account e.message
  return (state.map (·.balance)).getD 0

/-- What an account holds of an issuer's currency. -/
def quantityHeld (account currency issuer : String) : Consulting Λ Κ Ω Quantity := do
  let held ← (World.trustLine account currency issuer).mapError fun e =>
    .balanceUnreadable account e.message
  return held.getD Quantity.zero

/-- Checks that an account covers its reserve after a movement. -/
def requireReserve (account : String) (movement : Movement) (required : UInt64) :
    Consulting Λ Κ Ω Unit := do
  let balance ← dropsHeld account
  if movement.leavesReserve balance required then return () else throw (movement.shortfall account)

/-- Checks that an account holds a quantity of an issuer's currency. -/
def requireHolding (account currency issuer : String) (quantity : Quantity) :
    Consulting Λ Κ Ω Unit := do
  let held ← quantityHeld account currency issuer
  if held.atLeast quantity then return () else throw (.holdingShort currency issuer account)

end

end SwapPayout
