import SwapPayout.Bytes.Hex
import SwapPayout.Error.Payout
import SwapPayout.Text.Quoted

/-!
# Signature schemes

A public key says by its form how it signs: 33 bytes that start with the EdDSA marker are an ed25519
key behind that marker, all else is taken for a secp256k1 key. The scheme fixes what is signed, and
in which form key and content go to the signing network.
-/

namespace SwapPayout

/-- How a key signs. -/
inductive SignatureScheme where
  | ecdsa
  | eddsa
  deriving DecidableEq, Repr

/-- The byte in front of an ed25519 key on the ledger. -/
def eddsaMarker : UInt8 := 0xED

namespace SignatureScheme

def ofKey (key : Bytes) : SignatureScheme :=
  if key.length = 33 ∧ key.head? = some eddsaMarker then eddsa else ecdsa

/-- The name under which the signing network knows the scheme. -/
def name : SignatureScheme → String
  | ecdsa => "EC256K1"
  | eddsa => "ED25519"

/-- What the signing network is given to sign: the digest, or the message itself. -/
def content (scheme : SignatureScheme) (digest message : Bytes) : String :=
  match scheme with
  | ecdsa => Hex.upper digest
  | eddsa => "0x" ++ Hex.lower message

/-- The public key as the signing network knows it, without the marker. -/
def networkKey (scheme : SignatureScheme) (key : Bytes) : String :=
  match scheme with
  | ecdsa => Hex.lower key
  | eddsa => Hex.lower (key.drop 1)

end SignatureScheme

/-- The bytes of a hexadecimal text with an optional marker in front. -/
def readHex (text : String) : Except PayoutError Bytes :=
  (Hex.decode (Hex.withoutMarker text)).mapError fun e =>
    .notWritable ("invalid hex " ++ text ++ ": " ++ e.message)

end SwapPayout
