import SwapPayout.Bytes

/-!
# RIPEMD-160

Two lines of eighty steps run side by side over each block of sixteen little-endian words, with
different word orders, rotations and constants; their results are added crosswise into the state.
-/

namespace SwapPayout

namespace Ripemd160

/-- Five words. -/
structure State where
  a : UInt32
  b : UInt32
  c : UInt32
  d : UInt32
  e : UInt32

/-- Which word of the block each step of the left line takes. -/
def leftOrder : List Nat :=
  [0, 1, 2, 3, 4, 5, 6, 7, 8, 9, 10, 11, 12, 13, 14, 15,
   7, 4, 13, 1, 10, 6, 15, 3, 12, 0, 9, 5, 2, 14, 11, 8,
   3, 10, 14, 4, 9, 15, 8, 1, 2, 7, 0, 6, 13, 11, 5, 12,
   1, 9, 11, 10, 0, 8, 12, 4, 13, 3, 7, 15, 14, 5, 6, 2,
   4, 0, 5, 9, 7, 12, 2, 10, 14, 1, 3, 8, 11, 6, 15, 13]

/-- Which word of the block each step of the right line takes. -/
def rightOrder : List Nat :=
  [5, 14, 7, 0, 9, 2, 11, 4, 13, 6, 15, 8, 1, 10, 3, 12,
   6, 11, 3, 7, 0, 13, 5, 10, 14, 15, 8, 12, 4, 9, 1, 2,
   15, 5, 1, 3, 7, 14, 6, 9, 11, 8, 12, 2, 10, 0, 4, 13,
   8, 6, 4, 1, 3, 11, 15, 0, 5, 12, 2, 13, 9, 7, 10, 14,
   12, 15, 10, 4, 1, 5, 8, 7, 6, 2, 13, 14, 0, 3, 9, 11]

def leftRotations : List UInt32 :=
  [11, 14, 15, 12, 5, 8, 7, 9, 11, 13, 14, 15, 6, 7, 9, 8,
   7, 6, 8, 13, 11, 9, 7, 15, 7, 12, 15, 9, 11, 7, 13, 12,
   11, 13, 6, 7, 14, 9, 13, 15, 14, 8, 13, 6, 5, 12, 7, 5,
   11, 12, 14, 15, 14, 15, 9, 8, 9, 14, 5, 6, 8, 6, 5, 12,
   9, 15, 5, 11, 6, 8, 13, 12, 5, 12, 13, 14, 11, 8, 5, 6]

def rightRotations : List UInt32 :=
  [8, 9, 9, 11, 13, 15, 15, 5, 7, 7, 8, 11, 14, 14, 12, 6,
   9, 13, 15, 7, 12, 8, 9, 11, 7, 7, 12, 7, 6, 15, 13, 11,
   9, 7, 15, 11, 8, 6, 6, 14, 12, 13, 5, 14, 13, 13, 7, 5,
   15, 5, 8, 11, 14, 14, 6, 14, 6, 9, 12, 9, 12, 5, 15, 8,
   8, 5, 12, 9, 12, 5, 14, 6, 8, 13, 6, 5, 15, 13, 11, 11]

/-- The constant of each group of sixteen steps of the left line. -/
def leftConstants : List UInt32 := [0x00000000, 0x5a827999, 0x6ed9eba1, 0x8f1bbcdc, 0xa953fd4e]

/-- The constant of each group of sixteen steps of the right line. -/
def rightConstants : List UInt32 := [0x50a28be6, 0x5c4dd124, 0x6d703ef3, 0x7a6d76e9, 0x00000000]

/-- How the groups of sixteen steps combine three words. -/
def combine : (group : Nat) → UInt32 → UInt32 → UInt32 → UInt32
  | 0, x, y, z => x ^^^ y ^^^ z
  | 1, x, y, z => (x &&& y) ||| (~~~x &&& z)
  | 2, x, y, z => (x ||| ~~~y) ^^^ z
  | 3, x, y, z => (x &&& z) ||| (y &&& ~~~z)
  | _, x, y, z => x ^^^ (y ||| ~~~z)

def rotateLeft (w n : UInt32) : UInt32 := (w <<< n) ||| (w >>> (32 - n))

/-- One step: the combination of its group, the word it takes, its constant and its rotation. -/
def step (group : Nat) (constant word rotation : UInt32) (s : State) : State :=
  let t := rotateLeft (s.a + combine group s.b s.c s.d + word + constant) rotation + s.e
  ⟨s.e, t, s.b, rotateLeft s.c 10, s.d⟩

/-- A line of eighty steps. The left line counts its groups up, the right line down. -/
def line (groups : List Nat) (constants : List UInt32) (order : List Nat)
    (rotations : List UInt32) (words : List UInt32) (s : State) : State :=
  let parts := (groups.zip constants).flatMap (List.replicate 16)
  (parts.zip (order.zip rotations)).foldl
    (fun s ((group, constant), (i, rotation)) => step group constant (words.getD i 0) rotation s) s

/-- The words of a block, little-endian. -/
def words : (count : Nat) → Bytes → List UInt32
  | 0, _ => []
  | count + 1, bs => UInt32.ofNat (Bytes.toNat (bs.take 4).reverse) :: words count (bs.drop 4)

def compress (s : State) (block : Bytes) : State :=
  let ws := words 16 block
  let l := line [0, 1, 2, 3, 4] leftConstants leftOrder leftRotations ws s
  let r := line [4, 3, 2, 1, 0] rightConstants rightOrder rightRotations ws s
  ⟨s.b + l.c + r.d, s.c + l.d + r.e, s.d + l.e + r.a, s.e + l.a + r.b, s.a + l.b + r.c⟩

def absorb : (blocks : Nat) → State → Bytes → State
  | 0, s, _ => s
  | blocks + 1, s, bs => absorb blocks (compress s (bs.take 64)) (bs.drop 64)

/-- The message, a marker bit, zeros up to a whole block, and the length in bits, low byte first. -/
def pad (message : Bytes) : Bytes :=
  message ++ 0x80 :: List.replicate ((64 - (message.length + 9) % 64) % 64) 0
    ++ (Bytes.ofNat 8 (8 * message.length)).reverse

def initial : State := ⟨0x67452301, 0xefcdab89, 0x98badcfe, 0x10325476, 0xc3d2e1f0⟩

end Ripemd160

def ripemd160 (message : Bytes) : Bytes :=
  let padded := Ripemd160.pad message
  let s := Ripemd160.absorb (padded.length / 64) Ripemd160.initial padded
  [s.a, s.b, s.c, s.d, s.e].flatMap fun w => (Bytes.ofNat 4 w.toNat).reverse

@[simp] theorem length_ripemd160 (message : Bytes) : (ripemd160 message).length = 20 := by
  simp [ripemd160]

end SwapPayout
