import SwapPayout.Key.Scheme
import SwapPayout.Signature.Der
import SwapPayout.Signature.Eddsa

/-!
# Checking signatures

A signature is checked by the scheme of the public key: ECDSA signatures against the 32-byte digest,
EdDSA signatures against the message. The key is read first, then the signature.
-/

namespace SwapPayout

/-- Checks an ECDSA signature in its distinguished form. -/
def checkEcdsa (key digest signature : Bytes) : Except PayoutError Unit :=
  match Secp256k1.Point.decode? key, Ecdsa.Signature.ofDer? signature with
  | none, _ => .error (.badPublicKey (Hex.lower key) "signature error")
  | some _, none => .error (.badSignature "parse signature error: signature error")
  | some point, some sig =>
    if Ecdsa.verify point digest sig then .ok () else .error (.badSignature "signature error")

def Eddsa.Failure.message : Eddsa.Failure → String
  | .numberOutOfRange => "signature error: Cannot use scalar with high-bit set"
  | .mismatch => "signature error: Verification equation was not satisfied"

/-- Checks an EdDSA signature under a key behind its marker. -/
def checkEddsa (key message signature : Bytes) : Except PayoutError Unit :=
  match Ed25519.Point.decode? (key.drop 1) with
  | none =>
    .error (.badPublicKey (Hex.lower key) "signature error: Cannot decompress Edwards point")
  | some point =>
    if signature.length = 64 then
      (Eddsa.verify point (key.drop 1) message signature).mapError fun e => .badSignature e.message
    else .error (.badSignature "parse signature error: signature error")

/-- Checks a signature as the ledger stores it. -/
def checkSignature (key digest message signature : Bytes) : Except PayoutError Unit :=
  match SignatureScheme.ofKey key with
  | .ecdsa => checkEcdsa key digest signature
  | .eddsa => checkEddsa key message signature

end SwapPayout
