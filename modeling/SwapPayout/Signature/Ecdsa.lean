import SwapPayout.Curve.Secp256k1
import SwapPayout.Hash.Hmac

/-!
# ECDSA signatures

A signature is a pair of scalars, numbers from 1 to `n - 1` for the curve's order `n`. With `(r, s)`
also `(r, n - s)` verifies, so one of the two is singled out: a signature is low when `s` lies in
the lower half. Signing yields low signatures and verification refuses all others.

The secret number of a signature is derived from the key and the message digest, so signing is a
function of the two.
-/

namespace SwapPayout.Ecdsa

open Secp256k1 (order)

/-- A number from 1 to `n - 1`. -/
structure Scalar where
  val : Nat
  pos : 0 < val
  lt : val < order
  deriving DecidableEq, Repr

namespace Scalar

def ofNat? (n : Nat) : Option Scalar :=
  if h : 0 < n ∧ n < order then some ⟨n, h.1, h.2⟩ else none

/-- The scalar on the other side of the middle. -/
def neg (a : Scalar) : Scalar where
  val := order - a.val
  pos := Nat.sub_pos_of_lt a.lt
  lt := Nat.sub_lt (Nat.lt_trans a.pos a.lt) a.pos

/-- Does the scalar lie in the upper half? -/
def isHigh (a : Scalar) : Bool := order < 2 * a.val

end Scalar

/-- A signature. -/
structure Signature where
  r : Scalar
  s : Scalar
  deriving DecidableEq, Repr

/-- The low one of the two signatures that verify together. -/
def Signature.normalize (sig : Signature) : Signature :=
  if sig.s.isHigh then { sig with s := sig.s.neg } else sig

/-! ## Verifying -/

/-- Does a low signature fit the digest and the public point? -/
def verify (key : Secp256k1.Point) (digest : Bytes) (sig : Signature) : Bool :=
  let w := Curve.inverseMod order sig.s.val
  let u := Bytes.toNat digest * w % order
  let v := sig.r.val * w % order
  match ((Secp256k1.base.times u).add (key.times v)).coordinates? with
  | some (x, _) => !sig.s.isHigh && x % order == sig.r.val
  | none => false

/-! ## Signing -/

/-- The state of the generator of secret numbers. -/
structure Generator where
  key : Bytes
  value : Bytes

namespace Generator

/-- Mixes a marker and further bytes into the state. -/
def mix (g : Generator) (marker : UInt8) (bytes : Bytes) : Generator :=
  let key := hmacSha256 g.key (g.value ++ marker :: bytes)
  ⟨key, hmacSha256 key g.value⟩

def start (secret digest : Bytes) : Generator :=
  let g : Generator := ⟨List.replicate 32 0, List.replicate 32 1⟩
  (g.mix 0 (secret ++ digest)).mix 1 (secret ++ digest)

/-- The first number in range among so many; all but a vanishing share of numbers are. -/
def next? : (tries : Nat) → Generator → Option Scalar
  | 0, _ => none
  | tries + 1, g =>
    let value := hmacSha256 g.key g.value
    match Scalar.ofNat? (Bytes.toNat value) with
    | some k => some k
    | none => next? tries (Generator.mk g.key value |>.mix 0 [])

end Generator

/-- The low signature of a digest under a secret key. -/
def sign (secret : Scalar) (digest : Bytes) : Option Signature := do
  let k ← (Generator.start (Bytes.ofNat 32 secret.val) digest).next? 64
  let (x, _) ← (Secp256k1.base.times k.val).coordinates?
  let r ← Scalar.ofNat? (x % order)
  let s ← Scalar.ofNat?
    (Curve.inverseMod order k.val * (Bytes.toNat digest + r.val * secret.val) % order)
  return Signature.normalize ⟨r, s⟩

end SwapPayout.Ecdsa
