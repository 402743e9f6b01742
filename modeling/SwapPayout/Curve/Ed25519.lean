import SwapPayout.Bytes
import SwapPayout.Curve.Power

/-!
# The curve ed25519

The points of `y² - x² = 1 + d·x²·y²` over a prime field, in extended coordinates: `(x, y, z, t)`
stands for `(x / z, y / z)`, with `t = x·y / z`. The addition law has no exceptions, so it needs no
cases.

A point is written as its `y`, low byte first, with the parity of `x` in the top bit. Reading takes
`y` modulo the prime, so a few points have a second written form; writing gives the first.
-/

namespace SwapPayout.Ed25519

open Curve (powMod inverseMod subMod)

def fieldPrime : Nat := 2 ^ 255 - 19

/-- The prime order of the base point. -/
def order : Nat := 2 ^ 252 + 27742317777372353535851937790883648493

/-- A point in extended coordinates. -/
structure Point where
  x : Nat
  y : Nat
  z : Nat
  t : Nat

def mulMod (a b : Nat) : Nat := a * b % fieldPrime

def subtract (a b : Nat) : Nat := subMod fieldPrime a b

/-- The constant of the curve's equation, `-121665 / 121666`. -/
def d : Nat := 0x52036cee2b6ffe738cc740797779e89800700a4d4141d8ab75eb4dca135978a3

/-- A square root of `-1`. -/
def imaginary : Nat := 0x2b8324804fc1df0b2b4d00993dfbd7a72f431806ad2fe478c4ee1b274a0ea0b0

namespace Point

def zero : Point := ⟨0, 1, 1, 0⟩

/-- The base point. -/
def base : Point where
  x := 0x216936d3cd6e53fec0a4e231fdd6dc5c692cc7609525a7b2c9562d608f25d51a
  y := 0x6666666666666666666666666666666666666666666666666666666666666658
  z := 1
  t := 0x67875f0fd78b766566ea4e8e64abe37d20f09f80775152f56dde8ab3a5b7dda3

/-- The sum of two points. -/
def add (p q : Point) : Point :=
  let a := mulMod (subtract p.y p.x) (subtract q.y q.x)
  let b := mulMod (p.y + p.x) (q.y + q.x)
  let c := mulMod (mulMod (2 * d) p.t) q.t
  let e := mulMod (2 * p.z) q.z
  let f := subtract b a
  let g := subtract e c
  let h := (e + c) % fieldPrime
  let i := (b + a) % fieldPrime
  ⟨mulMod f g, mulMod h i, mulMod g h, mulMod f i⟩

/-- The point added to itself. -/
def double (p : Point) : Point := p.add p

/-- The inverse of a point. -/
def neg (p : Point) : Point := { p with x := subtract 0 p.x, t := subtract 0 p.t }

/-- A multiple of the point. -/
def times (n : Nat) (p : Point) : Point := Curve.multiple zero double add p n

/-- Is eight times the point the neutral element? -/
def isSmallOrder (p : Point) : Bool :=
  let q := p.times 8
  q.x == 0 && q.y == q.z

/-! ## Written form -/

/-- A square root of a quotient of field elements, the even one. -/
def rootOfRatio? (num den : Nat) : Option Nat :=
  let square := mulMod num (inverseMod fieldPrime den)
  let root := powMod fieldPrime square ((fieldPrime + 3) / 8)
  let root := if mulMod root root = square then root else mulMod root imaginary
  if mulMod root root = square then
    some (if root % 2 = 0 then root else fieldPrime - root)
  else none

/-- The point that 32 bytes stand for. -/
def decode? (bytes : Bytes) : Option Point :=
  let n := Bytes.toNat bytes.reverse
  let y := n % 2 ^ 255 % fieldPrime
  let yy := mulMod y y
  if bytes.length = 32 then
    (rootOfRatio? (subtract yy 1) ((mulMod d yy + 1) % fieldPrime)).map fun root =>
      let x := if n / 2 ^ 255 = 1 then subtract 0 root else root
      ⟨x, y, 1, mulMod x y⟩
  else none

/-- The 32 bytes of a point. -/
def encode (p : Point) : Bytes :=
  let i := inverseMod fieldPrime p.z
  let x := mulMod p.x i
  let y := mulMod p.y i
  (Bytes.ofNat 32 (y + x % 2 * 2 ^ 255)).reverse

@[simp] theorem length_encode (p : Point) : p.encode.length = 32 := by simp [encode]

end Point

end SwapPayout.Ed25519
