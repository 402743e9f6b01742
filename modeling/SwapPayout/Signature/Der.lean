import SwapPayout.Signature.Ecdsa

/-!
# The distinguished form of signatures

An ECDSA signature on the ledger is a sequence of two integers in the distinguished encoding, in
which nothing can be written in two ways: lengths and integers are minimal, and nothing follows.
Reading accepts exactly the sequences of two scalars.
-/

namespace SwapPayout.Ecdsa

namespace Der

def integerTag : UInt8 := 0x02

def sequenceTag : UInt8 := 0x30

/-- The big-endian bytes of a number, as few as keep the top bit clear. -/
def magnitude (n : Nat) : Bytes := Bytes.ofNat ((n.log2 + 1) / 8 + 1) n

/-- A value of less than 128 bytes behind its tag and length. -/
def tagged (tag : UInt8) (content : Bytes) : Bytes :=
  tag :: UInt8.ofNat content.length :: content

/-- The content behind a tag and a short length, and what follows it. -/
def untag? (tag : UInt8) : Bytes → Option (Bytes × Bytes)
  | t :: length :: rest =>
    if t = tag ∧ length < 128 ∧ length.toNat ≤ rest.length then
      some (rest.take length.toNat, rest.drop length.toNat)
    else none
  | _ => none

/-- Is this the minimal form of a number that is not negative? -/
def isMinimal : Bytes → Bool
  | [] => false
  | [b] => b < 0x80
  | b :: c :: _ => b < 0x80 && !(b == 0 && c < 0x80)

/-- The scalar at the front, and what follows it. -/
def readScalar? (bytes : Bytes) : Option (Scalar × Bytes) := do
  let (content, rest) ← untag? integerTag bytes
  if isMinimal content then
    let scalar ← Scalar.ofNat? (Bytes.toNat content)
    return (scalar, rest)
  else none

end Der

namespace Signature

def toDer (sig : Signature) : Bytes :=
  Der.tagged Der.sequenceTag
    (Der.tagged Der.integerTag (Der.magnitude sig.r.val)
      ++ Der.tagged Der.integerTag (Der.magnitude sig.s.val))

/-- The signature that a distinguished form stands for. -/
def ofDer? (bytes : Bytes) : Option Signature := do
  let (content, rest) ← Der.untag? Der.sequenceTag bytes
  let (r, after) ← Der.readScalar? content
  let (s, last) ← Der.readScalar? after
  if rest.isEmpty && last.isEmpty then some ⟨r, s⟩ else none

end Signature

end SwapPayout.Ecdsa
