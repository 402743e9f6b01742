import SwapPayout.Drops
import SwapPayout.Error.Payout
import SwapPayout.Payment.Basic

/-!
# Payment orders

What a payer wants to pay, most of it still in text. The payment of an order is checked in a fixed
sequence: key, receiver, sequence number, fee, paths.
-/

namespace SwapPayout

/-- What a payer wants to pay. -/
structure PaymentOrder where
  publicKey : Bytes
  sequence : UInt64
  receiver : String
  amount : Amount
  fee : String
  tag : Option UInt32 := none
  note : Option String := none
  paths : Option String := none
  noDirect : Bool := false
  partialAllowed : Bool := false
  limitQuality : Bool := false

namespace PaymentOrder

/-- The flags of an order; signatures are always in canonical form. -/
def flags (o : PaymentOrder) : UInt32 :=
  Payment.flagFullyCanonical ||| (if o.noDirect then Payment.flagNoDirect else 0)
    ||| (if o.partialAllowed then Payment.flagPartial else 0)
    ||| (if o.limitQuality then Payment.flagLimitQuality else 0)

/-- The memos of an order: an empty note is none. -/
def memos (o : PaymentOrder) : List Memo :=
  match o.note with
  | none => []
  | some note => if note.isEmpty then [] else [Memo.forSwap note]

/-- The paths of an order: an empty text is none. -/
def readPaths (o : PaymentOrder) : Except FormatError (Option PathSet) :=
  match o.paths with
  | none => .ok none
  | some text => if text.isEmpty then .ok none else (PathSet.parse text).map some

def payment (o : PaymentOrder) : Except PayoutError Payment := do
  let account ← (AccountId.ofPublicKey o.publicKey).mapError fun e =>
    .badPublicKey (Hex.lower o.publicKey) e.message
  let destination ← (AccountId.ofAddress o.receiver).mapError fun _ => .badReceiver o.receiver
  if 2 ^ 32 ≤ o.sequence.toNat then throw (.sequenceTooLarge o.sequence)
  let fee ← (Drops.parse o.fee).mapError fun _ => .badFee o.fee
  let paths ← o.readPaths.mapError PayoutError.ofFormat
  return {
    account, destination, paths, fee
    amount := o.amount
    destinationTag := o.tag
    memos := o.memos
    flags := o.flags
    sequence := o.sequence.toUInt32
    signingPubKey := o.publicKey
    txnSignature := none }

end PaymentOrder

end SwapPayout
