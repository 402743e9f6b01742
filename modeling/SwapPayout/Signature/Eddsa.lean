import SwapPayout.Curve.Ed25519
import SwapPayout.Hash.Sha2

/-!
# EdDSA signatures

A signature of 64 bytes is a point and a number below the order of the base point. Verification is
strict: neither the point nor the key may be of small order, and the point must be given in the very
bytes in which it is written.
-/

namespace SwapPayout.Eddsa

open Ed25519 (Point order)

/-- A little-endian number. -/
def numberOf (bytes : Bytes) : Nat := Bytes.toNat bytes.reverse

/-- The challenge that ties point, key and message together. -/
def challenge (point key message : Bytes) : Nat :=
  numberOf (sha512 (point ++ key ++ message)) % order

/-- How a signature of the right length fails. -/
inductive Failure where
  | numberOutOfRange
  | mismatch
  deriving DecidableEq, Repr

/-- Checks 64 bytes against a message and a key, given as point and in writing. -/
def verify (key : Point) (keyBytes message signature : Bytes) : Except Failure Unit :=
  let pointBytes := signature.take 32
  let number := numberOf (signature.drop 32)
  if order ≤ number then .error .numberOutOfRange
  else match Point.decode? pointBytes with
    | none => .error .mismatch
    | some point =>
      let k := challenge pointBytes keyBytes message
      if !point.isSmallOrder && !key.isSmallOrder
          && ((Point.base.times number).add (key.neg.times k)).encode == pointBytes
      then .ok () else .error .mismatch

/-- What a seed is expanded to: the secret number and the bytes that make nonces. -/
structure Secret where
  number : Nat
  nonceKey : Bytes

/-- The expansion of a seed. The number is a multiple of eight with its highest bit fixed. -/
def Secret.ofSeed (seed : Bytes) : Secret :=
  let digest := sha512 seed
  let n := numberOf (digest.take 32)
  ⟨n % 2 ^ 254 / 8 * 8 + 2 ^ 254, digest.drop 32⟩

def publicKey (seed : Bytes) : Bytes := (Point.base.times (Secret.ofSeed seed).number).encode

def sign (seed message : Bytes) : Bytes :=
  let secret := Secret.ofSeed seed
  let nonce := numberOf (sha512 (secret.nonceKey ++ message)) % order
  let point := (Point.base.times nonce).encode
  let k := challenge point (publicKey seed) message
  point ++ (Bytes.ofNat 32 ((nonce + k * secret.number) % order)).reverse

end SwapPayout.Eddsa
