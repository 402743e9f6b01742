import SwapPayout.Hash.Sha2
import SwapPayout.Key.Scheme
import SwapPayout.Payment.Order

/-!
# Drafts

A draft is a payment together with what has to be signed for it. An ECDSA key signs the digest of
the payment's signed form behind a marker, an EdDSA key the marked form itself.
-/

namespace SwapPayout

def signingMarker : Bytes := [0x53, 0x54, 0x58, 0x00]

/-- The marker in front of what is hashed into a transaction's name. -/
def transactionMarker : Bytes := [0x54, 0x58, 0x4E, 0x00]

namespace Payment

def digest (p : Payment) : Except FormatError Bytes :=
  p.signedForm.map fun payload => sha512Half (signingMarker ++ payload)

/-- The wire form, and the hash that names the transaction. -/
def blobAndHash (p : Payment) : Except FormatError (Bytes × Bytes) :=
  p.wireForm.map fun blob => (blob, sha512Half (transactionMarker ++ blob))

end Payment

/-- A payment and what has to be signed for it. -/
structure Draft where
  payment : Payment
  digest : Bytes
  payload : Bytes
  deriving DecidableEq, Repr

namespace Draft

/-- The marked form of the payment, which EdDSA keys sign. -/
def message (d : Draft) : Bytes := signingMarker ++ d.payload

def publicKey (d : Draft) : Bytes := d.payment.signingPubKey

def destination (d : Draft) : AccountId := d.payment.destination

def scheme (d : Draft) : SignatureScheme := SignatureScheme.ofKey d.publicKey

def ofPayment (p : Payment) : Except FormatError Draft :=
  p.signedForm.map fun payload =>
    { payment := p, digest := sha512Half (signingMarker ++ payload), payload }

def ofOrder (o : PaymentOrder) : Except PayoutError Draft := do
  let payment ← o.payment
  (ofPayment payment).mapError PayoutError.ofFormat

end Draft

end SwapPayout
