import SwapPayout.Bytes
import SwapPayout.Curve.Power

/-!
# The curve secp256k1

The points of `y² = x³ + 7` over a prime field, in Jacobian coordinates: `(x, y, z)` stands for
`(x / z², y / z³)`, and `z = 0` for the point at infinity. Only reading and writing a point needs a
division.

A public key is written compressed, as a marker for the parity of `y` followed by `x`. Reading also
takes the long form with both coordinates and the compact form, which stands for the even `y`.
-/

namespace SwapPayout.Secp256k1

open Curve (powMod inverseMod subMod)

def fieldPrime : Nat := 2 ^ 256 - 2 ^ 32 - 977

/-- The prime number of points. -/
def order : Nat := 0xfffffffffffffffffffffffffffffffebaaedce6af48a03bbfd25e8cd0364141

/-- A point in Jacobian coordinates. -/
structure Point where
  x : Nat
  y : Nat
  z : Nat

/-- The point at infinity. -/
def infinity : Point := ⟨1, 1, 0⟩

/-- The base point. -/
def base : Point where
  x := 0x79be667ef9dcbbac55a06295ce870b07029bfcdb2dce28d959f2815b16f81798
  y := 0x483ada7726a3c4655da4fbfc0e1108a8fd17b448a68554199c47d08ffb10d4b8
  z := 1

/-! ## The group -/

def mulMod (a b : Nat) : Nat := a * b % fieldPrime

def subtract (a b : Nat) : Nat := subMod fieldPrime a b

namespace Point

/-- The point added to itself. -/
def double (p : Point) : Point :=
  let a := mulMod p.x p.x
  let b := mulMod p.y p.y
  let c := mulMod b b
  let d := mulMod 2 (subtract (subtract (mulMod (p.x + b) (p.x + b)) a) c)
  let e := mulMod 3 a
  let x := subtract (mulMod e e) (mulMod 2 d)
  ⟨x, subtract (mulMod e (subtract d x)) (mulMod 8 c), mulMod 2 (mulMod p.y p.z)⟩

/-- The sum of two points. -/
def add (p q : Point) : Point :=
  if p.z = 0 then q
  else if q.z = 0 then p
  else
    let pz := mulMod p.z p.z
    let qz := mulMod q.z q.z
    let u := mulMod p.x qz
    let s := mulMod p.y (mulMod q.z qz)
    let h := subtract (mulMod q.x pz) u
    let r := subtract (mulMod q.y (mulMod p.z pz)) s
    if h = 0 then
      if r = 0 then p.double else infinity
    else
      let hh := mulMod h h
      let hhh := mulMod h hh
      let v := mulMod u hh
      let x := subtract (subtract (mulMod r r) hhh) (mulMod 2 v)
      ⟨x, subtract (mulMod r (subtract v x)) (mulMod s hhh), mulMod (mulMod p.z q.z) h⟩

/-- A multiple of the point. -/
def times (n : Nat) (p : Point) : Point := Curve.multiple infinity double add p n

/-- The coordinates of the point, unless it is at infinity. -/
def coordinates? (p : Point) : Option (Nat × Nat) :=
  if p.z = 0 then none
  else
    let i := inverseMod fieldPrime p.z
    let ii := mulMod i i
    some (mulMod p.x ii, mulMod p.y (mulMod i ii))

/-! ## Written form -/

/-- The two ordinates of an abscissa on the curve, the even one first. -/
def ordinates? (x : Nat) : Option (Nat × Nat) :=
  let square := (x * x * x + 7) % fieldPrime
  let root := powMod fieldPrime square ((fieldPrime + 1) / 4)
  if x < fieldPrime ∧ mulMod root root = square then
    let other := subtract 0 root
    some (if root % 2 = 0 then (root, other) else (other, root))
  else none

/-- The point a written form stands for. -/
def decode? (bytes : Bytes) : Option Point :=
  match bytes with
  | tag :: rest =>
    let x := Bytes.toNat (rest.take 32)
    if tag = 4 then
      let y := Bytes.toNat (rest.drop 32)
      if rest.length = 64 ∧ x < fieldPrime ∧ y < fieldPrime
          ∧ mulMod y y = (x * x * x + 7) % fieldPrime
      then some ⟨x, y, 1⟩ else none
    else if rest.length = 32 then
      (ordinates? x).bind fun (even, odd) =>
        if tag = 2 ∨ tag = 5 then some ⟨x, even, 1⟩
        else if tag = 3 then some ⟨x, odd, 1⟩
        else none
    else none
  | [] => none

def encode (p : Point) : Bytes :=
  match p.coordinates? with
  | some (x, y) => (if y % 2 = 0 then 2 else 3) :: Bytes.ofNat 32 x
  | none => [0]

end Point

end SwapPayout.Secp256k1
