/-!
# Byte strings

Everything that is hashed, signed or sent is a byte string, and a byte string is a list: the carrier
on which encoders and decoders are defined by recursion.

Big-endian numbers are the one bridge to arithmetic. `toNat` reads any byte string as a base-256
numeral, `ofNat` writes the low bytes of a number, and `toNat_ofNat` says that within the width the
two agree.
-/

-- Powers of numbers are the core library's, also where another library brings its own.
attribute [instance (high), default_instance (high + 1)] instPowNat

namespace SwapPayout

/-- A byte string. -/
abbrev Bytes := List UInt8

namespace Bytes

def ofString (s : String) : Bytes := s.toUTF8.toList

/-- The number whose base-256 digits, most significant first, are the bytes. -/
def toNat (bs : Bytes) : Nat := bs.foldl (fun n b => n * 256 + b.toNat) 0

/-- The low `width` bytes of a number, most significant first. -/
def ofNat : (width : Nat) → Nat → Bytes
  | 0, _ => []
  | width + 1, n => UInt8.ofNat (n / 256 ^ width) :: ofNat width n

@[simp] theorem length_ofNat (width n : Nat) : (ofNat width n).length = width := by
  induction width with
  | zero => rfl
  | succ width ih => simp [ofNat, ih]

/-- Reading continues: what has been read so far is shifted past the bytes that follow. -/
theorem foldl_digits (bs : Bytes) (n : Nat) :
    bs.foldl (fun n b => n * 256 + b.toNat) n = n * 256 ^ bs.length + toNat bs := by
  induction bs generalizing n with
  | nil => simp [toNat]
  | cons b bs ih =>
    simp only [List.foldl_cons, toNat, List.length_cons]
    rw [ih, ih (0 * 256 + b.toNat), Nat.pow_succ, Nat.zero_mul, Nat.zero_add, Nat.add_mul,
      Nat.mul_assoc, Nat.mul_comm 256, Nat.add_assoc]

theorem toNat_cons (b : UInt8) (bs : Bytes) :
    toNat (b :: bs) = b.toNat * 256 ^ bs.length + toNat bs := by
  simp [toNat, foldl_digits bs b.toNat]

/-- Within its width a number survives being written and read back. -/
theorem toNat_ofNat (width n : Nat) : toNat (ofNat width n) = n % 256 ^ width := by
  induction width with
  | zero => simp [ofNat, toNat, Nat.mod_one]
  | succ width ih =>
    have split : n % 256 ^ (width + 1) =
        n % 256 ^ width + 256 ^ width * (n / 256 ^ width % 256) := by
      rw [Nat.pow_succ, Nat.mod_mul]
    rw [ofNat, toNat_cons, ih, length_ofNat, UInt8.toNat_ofNat', split, Nat.mul_comm, Nat.add_comm]

/-- Neighbouring items of a list joined two by two; a last item without a partner is dropped. -/
def pairUp {α β : Type} (f : α → α → β) (xs : List α) : List β := go xs []
where
  go : List α → List β → List β
    | a :: b :: rest, acc => go rest (f a b :: acc)
    | _, acc => acc.reverse

theorem pairUp_go {α β : Type} (f : α → α → β) : ∀ (xs : List α) (acc : List β),
    pairUp.go f xs acc = acc.reverse ++ pairUp.go f xs []
  | a :: b :: rest, acc => by
    rw [pairUp.go, pairUp_go f rest, pairUp.go, pairUp_go f rest [f a b]]
    simp
  | [_], acc => by simp [pairUp.go]
  | [], acc => by simp [pairUp.go]

@[simp] theorem pairUp_cons_cons {α β : Type} (f : α → α → β) (a b : α) (rest : List α) :
    pairUp f (a :: b :: rest) = f a b :: pairUp f rest := by
  rw [pairUp, pairUp.go, pairUp_go]
  rfl

end Bytes

end SwapPayout
