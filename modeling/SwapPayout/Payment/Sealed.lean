import SwapPayout.Key.Rsv
import SwapPayout.Payment.Draft

/-!
# Sealed payments

A payment with its signature, ready to be sent, and the hash that names it.
-/

namespace SwapPayout

/-- A payment with its signature, its wire form and its name. -/
structure SealedPayment where
  payment : Payment
  blob : Bytes
  hash : Bytes
  deriving DecidableEq, Repr

/-- Seals a draft with the signature of a text. The key must be the one the draft was made for; its
scheme says how the text is read. -/
def Draft.seal (d : Draft) (key : Bytes) (rsv : String) : Except PayoutError SealedPayment := do
  if key ≠ d.publicKey then throw (.foreignKey (Hex.lower d.publicKey) (Hex.lower key))
  let signature ← Rsv.toSignature rsv (SignatureScheme.ofKey key)
  let payment := { d.payment with txnSignature := some signature }
  let (blob, hash) ← payment.blobAndHash.mapError PayoutError.ofFormat
  return { payment, blob, hash }

end SwapPayout
