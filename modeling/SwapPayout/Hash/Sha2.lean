import SwapPayout.Bytes

/-!
# The SHA-2 family

One algorithm on two word sizes. A message is padded to whole blocks of sixteen words; each block is
expanded to a schedule, one word a round; the rounds turn a state of eight words, which is then
added to the state before the block. The words of the last state are the digest.

`sha256` and `sha512` are the two instances. `sha512Half` is the first half of the latter, the
digest in which transactions are named and signed.
-/

namespace SwapPayout

namespace Sha2

/-! ## Words -/

/-- Fixed-width words with the operations that the rounds use. -/
class Word (W : Type) extends Add W, XorOp W, AndOp W, Complement W where
  width : Nat
  /-- The word of a number, modulo the word size. -/
  ofNat : Nat → W
  toNat : W → Nat
  rotateRight : W → Nat → W
  shiftRight : W → Nat → W

instance : Word UInt32 where
  width := 4
  ofNat := UInt32.ofNat
  toNat := UInt32.toNat
  rotateRight w n := (w >>> UInt32.ofNat n) ||| (w <<< UInt32.ofNat (32 - n))
  shiftRight w n := w >>> UInt32.ofNat n

instance : Word UInt64 where
  width := 8
  ofNat := UInt64.ofNat
  toNat := UInt64.toNat
  rotateRight w n := (w >>> UInt64.ofNat n) ||| (w <<< UInt64.ofNat (64 - n))
  shiftRight w n := w >>> UInt64.ofNat n

/-- Eight words. -/
structure State (W : Type) where
  a : W
  b : W
  c : W
  d : W
  e : W
  f : W
  g : W
  h : W

/-- Three rotations, exclusively or-ed. -/
@[specialize] def rotations {W : Type} [Word W] (x y z : Nat) (w : W) : W :=
  Word.rotateRight w x ^^^ Word.rotateRight w y ^^^ Word.rotateRight w z

/-- Two rotations and a shift, exclusively or-ed. -/
@[specialize] def rotationsAndShift {W : Type} [Word W] (x y z : Nat) (w : W) : W :=
  Word.rotateRight w x ^^^ Word.rotateRight w y ^^^ Word.shiftRight w z

/-- What a word size fixes: where the state starts, the round constants and the four mixing maps. -/
structure Variant (W : Type) where
  initial : State W
  constants : List W
  /-- Mixes the first word of the state in every round. -/
  mixA : W → W
  /-- Mixes the fifth word of the state in every round. -/
  mixE : W → W
  /-- Mixes the word fifteen places back into the schedule. -/
  mixOld : W → W
  /-- Mixes the word two places back into the schedule. -/
  mixNew : W → W

/-! ## The rounds -/

/-- The words of a block, big-endian. -/
@[specialize] def words {W : Type} [Word W] : (count : Nat) → Bytes → List W
  | 0, _ => []
  | count + 1, bs =>
    Word.ofNat (Bytes.toNat (bs.take (Word.width W))) :: words count (bs.drop (Word.width W))

/-- Extends a schedule, kept last word first, by so many words. -/
@[specialize] def extend {W : Type} [Word W] (v : Variant W) : (count : Nat) → List W → List W
  | 0, ws => ws
  | count + 1, ws =>
    let zero := Word.ofNat 0
    let next := v.mixNew (ws.getD 1 zero) + ws.getD 6 zero + v.mixOld (ws.getD 14 zero)
      + ws.getD 15 zero
    extend v count (next :: ws)

/-- One round, with its constant and its word of the schedule. -/
@[specialize] def round {W : Type} [Word W] (v : Variant W) (s : State W) (k w : W) : State W :=
  let choice := (s.e &&& s.f) ^^^ (~~~s.e &&& s.g)
  let majority := (s.a &&& s.b) ^^^ (s.a &&& s.c) ^^^ (s.b &&& s.c)
  let t := s.h + v.mixE s.e + choice + k + w
  ⟨t + (v.mixA s.a + majority), s.a, s.b, s.c, s.d + t, s.e, s.f, s.g⟩

@[specialize] def rounds {W : Type} [Word W] (v : Variant W) : State W → List W → List W → State W
  | s, k :: ks, w :: ws => rounds v (round v s k w) ks ws
  | s, _, _ => s

@[specialize] def compress {W : Type} [Word W] (v : Variant W) (s : State W) (block : Bytes) :
    State W :=
  let schedule := (extend v (v.constants.length - 16) (words 16 block).reverse).reverse
  let t := rounds v s v.constants schedule
  ⟨s.a + t.a, s.b + t.b, s.c + t.c, s.d + t.d, s.e + t.e, s.f + t.f, s.g + t.g, s.h + t.h⟩

@[specialize] def absorb {W : Type} [Word W] (v : Variant W) :
    (blocks : Nat) → State W → Bytes → State W
  | 0, s, _ => s
  | blocks + 1, s, bs =>
    absorb v blocks (compress v s (bs.take (16 * Word.width W))) (bs.drop (16 * Word.width W))

/-- The message, a marker bit, zeros up to a whole block, and the length in bits. -/
def pad (wordWidth : Nat) (message : Bytes) : Bytes :=
  let block := 16 * wordWidth
  let used := message.length + 1 + 2 * wordWidth
  message ++ 0x80 :: List.replicate ((block - used % block) % block) 0
    ++ Bytes.ofNat (2 * wordWidth) (8 * message.length)

@[specialize] def digest {W : Type} [Word W] (v : Variant W) (message : Bytes) : Bytes :=
  let padded := pad (Word.width W) message
  let s := absorb v (padded.length / (16 * Word.width W)) v.initial padded
  [s.a, s.b, s.c, s.d, s.e, s.f, s.g, s.h].flatMap fun w =>
    Bytes.ofNat (Word.width W) (Word.toNat w)

/-! ## The two variants -/

def variant32 : Variant UInt32 where
  initial :=
    ⟨0x6a09e667, 0xbb67ae85, 0x3c6ef372, 0xa54ff53a,
     0x510e527f, 0x9b05688c, 0x1f83d9ab, 0x5be0cd19⟩
  constants := constants32
  mixA := rotations 2 13 22
  mixE := rotations 6 11 25
  mixOld := rotationsAndShift 7 18 3
  mixNew := rotationsAndShift 17 19 10
where
  constants32 : List UInt32 :=
    [0x428a2f98, 0x71374491, 0xb5c0fbcf, 0xe9b5dba5, 0x3956c25b, 0x59f111f1, 0x923f82a4, 0xab1c5ed5,
     0xd807aa98, 0x12835b01, 0x243185be, 0x550c7dc3, 0x72be5d74, 0x80deb1fe, 0x9bdc06a7, 0xc19bf174,
     0xe49b69c1, 0xefbe4786, 0x0fc19dc6, 0x240ca1cc, 0x2de92c6f, 0x4a7484aa, 0x5cb0a9dc, 0x76f988da,
     0x983e5152, 0xa831c66d, 0xb00327c8, 0xbf597fc7, 0xc6e00bf3, 0xd5a79147, 0x06ca6351, 0x14292967,
     0x27b70a85, 0x2e1b2138, 0x4d2c6dfc, 0x53380d13, 0x650a7354, 0x766a0abb, 0x81c2c92e, 0x92722c85,
     0xa2bfe8a1, 0xa81a664b, 0xc24b8b70, 0xc76c51a3, 0xd192e819, 0xd6990624, 0xf40e3585, 0x106aa070,
     0x19a4c116, 0x1e376c08, 0x2748774c, 0x34b0bcb5, 0x391c0cb3, 0x4ed8aa4a, 0x5b9cca4f, 0x682e6ff3,
     0x748f82ee, 0x78a5636f, 0x84c87814, 0x8cc70208, 0x90befffa, 0xa4506ceb, 0xbef9a3f7, 0xc67178f2]

def variant64 : Variant UInt64 where
  initial :=
    ⟨0x6a09e667f3bcc908, 0xbb67ae8584caa73b, 0x3c6ef372fe94f82b, 0xa54ff53a5f1d36f1,
     0x510e527fade682d1, 0x9b05688c2b3e6c1f, 0x1f83d9abfb41bd6b, 0x5be0cd19137e2179⟩
  constants := constants64
  mixA := rotations 28 34 39
  mixE := rotations 14 18 41
  mixOld := rotationsAndShift 1 8 7
  mixNew := rotationsAndShift 19 61 6
where
  constants64 : List UInt64 :=
    [0x428a2f98d728ae22, 0x7137449123ef65cd, 0xb5c0fbcfec4d3b2f, 0xe9b5dba58189dbbc,
     0x3956c25bf348b538, 0x59f111f1b605d019, 0x923f82a4af194f9b, 0xab1c5ed5da6d8118,
     0xd807aa98a3030242, 0x12835b0145706fbe, 0x243185be4ee4b28c, 0x550c7dc3d5ffb4e2,
     0x72be5d74f27b896f, 0x80deb1fe3b1696b1, 0x9bdc06a725c71235, 0xc19bf174cf692694,
     0xe49b69c19ef14ad2, 0xefbe4786384f25e3, 0x0fc19dc68b8cd5b5, 0x240ca1cc77ac9c65,
     0x2de92c6f592b0275, 0x4a7484aa6ea6e483, 0x5cb0a9dcbd41fbd4, 0x76f988da831153b5,
     0x983e5152ee66dfab, 0xa831c66d2db43210, 0xb00327c898fb213f, 0xbf597fc7beef0ee4,
     0xc6e00bf33da88fc2, 0xd5a79147930aa725, 0x06ca6351e003826f, 0x142929670a0e6e70,
     0x27b70a8546d22ffc, 0x2e1b21385c26c926, 0x4d2c6dfc5ac42aed, 0x53380d139d95b3df,
     0x650a73548baf63de, 0x766a0abb3c77b2a8, 0x81c2c92e47edaee6, 0x92722c851482353b,
     0xa2bfe8a14cf10364, 0xa81a664bbc423001, 0xc24b8b70d0f89791, 0xc76c51a30654be30,
     0xd192e819d6ef5218, 0xd69906245565a910, 0xf40e35855771202a, 0x106aa07032bbd1b8,
     0x19a4c116b8d2d0c8, 0x1e376c085141ab53, 0x2748774cdf8eeb99, 0x34b0bcb5e19b48a8,
     0x391c0cb3c5c95a63, 0x4ed8aa4ae3418acb, 0x5b9cca4f7763e373, 0x682e6ff3d6b2b8a3,
     0x748f82ee5defb2fc, 0x78a5636f43172f60, 0x84c87814a1f0ab72, 0x8cc702081a6439ec,
     0x90befffa23631e28, 0xa4506cebde82bde9, 0xbef9a3f7b2c67915, 0xc67178f2e372532b,
     0xca273eceea26619c, 0xd186b8c721c0c207, 0xeada7dd6cde0eb1e, 0xf57d4f7fee6ed178,
     0x06f067aa72176fba, 0x0a637dc5a2c898a6, 0x113f9804bef90dae, 0x1b710b35131c471b,
     0x28db77f523047d84, 0x32caab7b40c72493, 0x3c9ebe0a15c9bebc, 0x431d67c49c100d4c,
     0x4cc5d4becb3e42b6, 0x597f299cfc657e2a, 0x5fcb6fab3ad6faec, 0x6c44198c4a475817]

end Sha2

def sha256 (message : Bytes) : Bytes := Sha2.digest Sha2.variant32 message

def sha512 (message : Bytes) : Bytes := Sha2.digest Sha2.variant64 message

def sha512Half (message : Bytes) : Bytes := (sha512 message).take 32

@[simp] theorem length_sha256 (message : Bytes) : (sha256 message).length = 32 := by
  simp [sha256, Sha2.digest, Sha2.Word.width]

@[simp] theorem length_sha512 (message : Bytes) : (sha512 message).length = 64 := by
  simp [sha512, Sha2.digest, Sha2.Word.width]

@[simp] theorem length_sha512Half (message : Bytes) : (sha512Half message).length = 32 := by
  simp [sha512Half]

end SwapPayout
