import SwapPayout.Settings
import SwapPayout.Swap.Request
import SwapPayout.World

/-!
# Pinning a sequence

The sequence number of a payout is the ledger's, unless the keeper of sequence numbers knows of
later ones that are still on their way. Once a swap has its number and fee, neither the ledger nor
the keeper is asked again.
-/

namespace SwapPayout

/-- The fee of a chain's transactions, in drops. -/
def ChainSettings.feeText (chain : ChainSettings) : String := toString (chain.fee.getD 10)

section

variable {Λ Κ Ω : Type} [Ledger Λ]

/-- The ledger's sequence number for an account; zero for one that does not exist. -/
def ledgerSequence (address : String) : Consulting Λ Κ Ω UInt64 := do
  let state ← (World.account address).mapError fun e => .accountUnreadable address e.message
  return (state.map (·.sequence.toUInt64)).getD 0

variable [SequenceKeeper Κ]

/-- The sequence number to use for an account, never below the ledger's. -/
def nextSequence (address : String) : Consulting Λ Κ Ω UInt64 := do
  let fetched ← ledgerSequence address
  let given ← World.allocate address fetched
  return if given < fetched then fetched else given

/-- What a swap has pinned, or pins now with this fee. -/
def pin (fee : String) (request : SwapRequest) : Consulting Λ Κ Ω Pinned := do
  match request.pinned with
  | some pinned => return pinned
  | none => return { sequence := ← nextSequence request.sender, fee }

end

end SwapPayout
