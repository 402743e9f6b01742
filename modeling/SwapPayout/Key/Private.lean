import SwapPayout.Key.Rsv
import SwapPayout.Signature.Eddsa

/-!
# Private keys

A private key held by the process itself, for controlled environments: 32 bytes are a secp256k1
secret, 33 bytes behind the EdDSA marker an ed25519 seed. No text shows the secret.
-/

namespace SwapPayout

/-- A private key. -/
inductive PrivateKey where
  | secp256k1 (secret : Ecdsa.Scalar)
  | ed25519 (seed : Bytes)
  deriving DecidableEq

namespace PrivateKey

def ofBytes (bytes : Bytes) : Except PayoutError PrivateKey :=
  if bytes.length = 32 then
    match Ecdsa.Scalar.ofNat? (Bytes.toNat bytes) with
    | some secret => .ok (secp256k1 secret)
    | none => .error (.badPrivateKey "signature error")
  else if bytes.length = 33 ∧ bytes.head? = some eddsaMarker then .ok (ed25519 (bytes.drop 1))
  else .error (.badPrivateKey s!"unexpected key length {bytes.length}")

def ofHex (text : String) : Except PayoutError PrivateKey :=
  match readHex text with
  | .error _ => .error (.badPrivateKey "not a hex string")
  | .ok bytes => ofBytes bytes

def scheme : PrivateKey → SignatureScheme
  | secp256k1 _ => .ecdsa
  | ed25519 _ => .eddsa

/-- The public key as the ledger knows it. -/
def publicKey : PrivateKey → Bytes
  | secp256k1 secret => (Secp256k1.base.times secret.val).encode
  | ed25519 seed => eddsaMarker :: Eddsa.publicKey seed

/-- The signature as the ledger stores it, of the digest or of the message. -/
def sign (key : PrivateKey) (digest message : Bytes) : Except PayoutError Bytes :=
  match key with
  | secp256k1 secret =>
    match Ecdsa.sign secret digest with
    | some sig => .ok sig.toDer
    | none => .error (.badSignature "sign hash error: signature error")
  | ed25519 seed => .ok (Eddsa.sign seed message)

/-- What may be shown of a key. -/
def describe (key : PrivateKey) : String :=
  "LocalKey(" ++ key.scheme.name ++ ", " ++ Hex.lower key.publicKey ++ ")"

end PrivateKey

end SwapPayout
