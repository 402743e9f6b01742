import SwapPayout.Proofs.Radix
import SwapPayout.Signature.Der

/-!
# Signatures have one distinguished form

Reading accepts what writing gives and nothing else, so a signature has one distinguished form and a
byte string stands for at most one signature: `Ecdsa.Signature.ofDer?_eq_some`.

What could be written in two ways is the length of an integer. The bytes of an integer are minimal
exactly when they are as many as the writer takes for their number (`Der.isMinimal_iff`); all else
is a matter of tags and lengths that are the same on both sides.
-/

namespace SwapPayout.Ecdsa

namespace Der

/-! ## Tags and lengths -/

/-- **A content is found behind its tag and length** where it has less than 128 bytes, and only
there. -/
theorem untag?_eq_some {tag : UInt8} {bytes content rest : Bytes} :
    untag? tag bytes = some (content, rest) ↔
      content.length < 128 ∧ bytes = tagged tag content ++ rest := by
  constructor
  · intro h
    match bytes with
    | [] | [_] => cases h
    | t :: length :: tail =>
      obtain ⟨⟨rfl, short, enough⟩, found⟩ := Option.ite_none_right_eq_some.mp h
      obtain ⟨rfl, rfl⟩ := Prod.mk.inj (Option.some.inj found)
      have size : (tail.take length.toNat).length = length.toNat := List.length_take_of_le enough
      refine ⟨by rw [size]; exact UInt8.lt_iff_toNat_lt.mp short, ?_⟩
      rw [tagged, size, UInt8.ofNat_toNat, List.cons_append, List.cons_append,
        List.take_append_drop]
  · rintro ⟨short, rfl⟩
    have size : (UInt8.ofNat content.length).toNat = content.length := by
      rw [UInt8.toNat_ofNat']
      omega
    show untag? tag (tag :: UInt8.ofNat content.length :: (content ++ rest)) = _
    have room : UInt8.ofNat content.length < 128 := by
      rw [UInt8.lt_iff_toNat_lt, size]
      exact short
    simp [untag?, size, room]

/-! ## Integers -/

/-- Numbers of two bytes and more whose bytes are counted with the top bit kept clear. -/
theorem width_eq_iff {n k : Nat} :
    k + 2 = (n.log2 + 1) / 8 + 1 ↔ 128 * 256 ^ k ≤ n ∧ n < 32768 * 256 ^ k := by
  have low : 128 * 256 ^ k = 2 ^ (8 * k + 7) := by
    rw [Nat.pow_add, Nat.pow_mul, Nat.mul_comm]
  have high : 32768 * 256 ^ k = 2 ^ (8 * k + 15) := by
    rw [Nat.pow_add, Nat.pow_mul, Nat.mul_comm]
  rw [low, high]
  by_cases zero : n = 0
  · subst zero
    have none_below : ¬ 2 ^ (8 * k + 7) ≤ 0 := Nat.not_le.mpr (Nat.two_pow_pos _)
    have log_zero : Nat.log2 0 = 0 := by decide
    rw [log_zero]
    omega
  · rw [← Nat.le_log2 zero, ← Nat.log2_lt zero]
    omega

/-- **The bytes of a number are minimal** when they are as many as are written for it. -/
theorem isMinimal_iff {bytes : Bytes} :
    isMinimal bytes = true ↔ bytes.length = ((Bytes.toNat bytes).log2 + 1) / 8 + 1 := by
  match bytes with
  | [] => simp [isMinimal]
  | [b] =>
    have value : Bytes.toNat [b] = b.toNat := by simp [Bytes.toNat]
    have small : (b.toNat.log2 + 1) / 8 = 0 ↔ b.toNat < 128 := by
      by_cases zero : b.toNat = 0
      · rw [zero]
        decide
      · have bits : b.toNat.log2 < 7 ↔ b.toNat < 2 ^ 7 := Nat.log2_lt zero
        omega
    rw [value, isMinimal, decide_eq_true_iff, UInt8.lt_iff_toNat_lt]
    show b.toNat < 128 ↔ 1 = (b.toNat.log2 + 1) / 8 + 1
    omega
  | b :: c :: rest =>
    have digits : isMinimal (b :: c :: rest) = true ↔
        128 ≤ b.toNat * 256 + c.toNat ∧ b.toNat * 256 + c.toNat < 32768 := by
      have hb : b.toNat < 256 := b.toNat_lt
      have hc : c.toNat < 256 := c.toNat_lt
      have zero : b = 0 ↔ b.toNat = 0 := UInt8.toNat_inj.symm
      have half (x : UInt8) : x < 128 ↔ x.toNat < 128 := UInt8.lt_iff_toNat_lt
      simp only [isMinimal, Bool.and_eq_true, Bool.not_eq_true', Bool.and_eq_false_iff,
        decide_eq_true_iff, decide_eq_false_iff_not, beq_eq_false_iff_ne, ne_eq, zero, half]
      omega
    have room : 0 < 256 ^ rest.length := Nat.pow_pos (by decide)
    have tail := Bytes.toNat_lt rest
    have value : Bytes.toNat (b :: c :: rest) / 256 ^ rest.length = b.toNat * 256 + c.toNat := by
      rw [Bytes.toNat_cons, Bytes.toNat_cons, List.length_cons, Nat.pow_succ, Nat.mul_comm _ 256,
        ← Nat.mul_assoc, ← Nat.add_assoc, ← Nat.add_mul, Nat.add_comm, Nat.add_mul_div_right _ _ room,
        Nat.div_eq_of_lt tail, Nat.zero_add]
    rw [digits, ← value, Nat.le_div_iff_mul_le room, Nat.div_lt_iff_lt_mul room]
    exact width_eq_iff.symm

theorem magnitude_toNat {bytes : Bytes} (h : isMinimal bytes = true) :
    magnitude (Bytes.toNat bytes) = bytes := by
  rw [magnitude, ← isMinimal_iff.mp h]
  exact Bytes.ofNat_toNat bytes

theorem toNat_magnitude (n : Nat) : Bytes.toNat (magnitude n) = n := by
  have width : n < 256 ^ ((n.log2 + 1) / 8 + 1) := by
    calc n < 2 ^ (n.log2 + 1) := Nat.lt_log2_self
      _ ≤ 2 ^ (8 * ((n.log2 + 1) / 8 + 1)) := Nat.pow_le_pow_right (by decide) (by omega)
      _ = 256 ^ ((n.log2 + 1) / 8 + 1) := by rw [Nat.pow_mul]
  rw [magnitude, Bytes.toNat_ofNat, Nat.mod_eq_of_lt width]

theorem isMinimal_magnitude (n : Nat) : isMinimal (magnitude n) = true := by
  rw [isMinimal_iff, toNat_magnitude, magnitude, Bytes.length_ofNat]

end Der

/-! ## Lengths -/

theorem Scalar.val_lt (a : Scalar) : a.val < 2 ^ 256 := Nat.lt_trans a.lt (by decide)

namespace Der

/-- A number of 256 bits has 32 bytes, and one more where the top bit must be kept clear. -/
theorem length_magnitude_le {n : Nat} (h : n < 2 ^ 256) : (magnitude n).length ≤ 33 := by
  have bits : n.log2 < 256 := by
    by_cases zero : n = 0
    · subst zero
      decide
    · exact (Nat.log2_lt zero).mpr h
  rw [magnitude, Bytes.length_ofNat]
  omega

theorem length_tagged (tag : UInt8) (content : Bytes) :
    (tagged tag content).length = content.length + 2 := rfl

end Der

/-- What stands behind the outer tag: two integers behind tags of their own. -/
def Signature.derContent (sig : Signature) : Bytes :=
  Der.tagged Der.integerTag (Der.magnitude sig.r.val)
    ++ Der.tagged Der.integerTag (Der.magnitude sig.s.val)

theorem Signature.length_derContent_le (sig : Signature) : sig.derContent.length ≤ 70 := by
  have r := Der.length_magnitude_le sig.r.val_lt
  have s := Der.length_magnitude_le sig.s.val_lt
  rw [derContent, List.length_append, Der.length_tagged, Der.length_tagged]
  omega

theorem Signature.length_toDer_le (sig : Signature) : sig.toDer.length ≤ 72 := by
  have content := sig.length_derContent_le
  show (Der.tagged Der.sequenceTag sig.derContent).length ≤ 72
  rw [Der.length_tagged]
  omega

/-! ## Scalars -/

theorem Scalar.ofNat?_eq_some {n : Nat} {a : Scalar} : Scalar.ofNat? n = some a ↔ n = a.val := by
  unfold Scalar.ofNat?
  constructor
  · intro h
    split at h
    · cases h
      rfl
    · cases h
  · rintro rfl
    exact dif_pos ⟨a.pos, a.lt⟩

theorem Scalar.ofNat?_val (a : Scalar) : Scalar.ofNat? a.val = some a :=
  Scalar.ofNat?_eq_some.mpr rfl

theorem Der.readScalar?_eq_some {bytes rest : Bytes} {a : Scalar} :
    readScalar? bytes = some (a, rest) ↔
      bytes = tagged integerTag (magnitude a.val) ++ rest := by
  unfold readScalar?
  constructor
  · intro h
    obtain ⟨⟨content, after⟩, found, h⟩ := Option.bind_eq_some_iff.mp h
    obtain ⟨minimal, h⟩ := Option.ite_none_right_eq_some.mp h
    obtain ⟨scalar, read, h⟩ := Option.bind_eq_some_iff.mp h
    obtain ⟨rfl, rfl⟩ := Prod.mk.inj (Option.some.inj h)
    rw [← Scalar.ofNat?_eq_some.mp read, magnitude_toNat minimal]
    exact (untag?_eq_some.mp found).2
  · rintro rfl
    have short : (magnitude a.val).length < 128 :=
      Nat.lt_of_le_of_lt (length_magnitude_le a.val_lt) (by decide)
    refine Option.bind_eq_some_iff.mpr ⟨_, untag?_eq_some.mpr ⟨short, rfl⟩, ?_⟩
    refine Option.ite_none_right_eq_some.mpr ⟨isMinimal_magnitude a.val, ?_⟩
    refine Option.bind_eq_some_iff.mpr ⟨a, ?_, rfl⟩
    rw [toNat_magnitude]
    exact Scalar.ofNat?_val a

/-! ## Signatures -/

/-- **A signature has one distinguished form**, and no other byte string stands for it. -/
theorem Signature.ofDer?_eq_some {bytes : Bytes} {sig : Signature} :
    ofDer? bytes = some sig ↔ bytes = sig.toDer := by
  unfold ofDer?
  constructor
  · intro h
    obtain ⟨⟨content, rest⟩, found, h⟩ := Option.bind_eq_some_iff.mp h
    obtain ⟨⟨r, after⟩, first, h⟩ := Option.bind_eq_some_iff.mp h
    obtain ⟨⟨s, last⟩, second, h⟩ := Option.bind_eq_some_iff.mp h
    obtain ⟨whole, h⟩ := Option.ite_none_right_eq_some.mp h
    cases h
    obtain ⟨rfl, rfl⟩ : rest = [] ∧ last = [] := by simpa using whole
    obtain ⟨-, rfl⟩ := Der.untag?_eq_some.mp found
    obtain rfl := Der.readScalar?_eq_some.mp first
    obtain rfl := Der.readScalar?_eq_some.mp second
    rw [toDer, List.append_nil, List.append_nil]
  · rintro rfl
    have short : sig.derContent.length < 128 :=
      Nat.lt_of_le_of_lt sig.length_derContent_le (by decide)
    have found : Der.untag? Der.sequenceTag sig.toDer = some (sig.derContent, []) :=
      Der.untag?_eq_some.mpr ⟨short, (List.append_nil _).symm⟩
    refine Option.bind_eq_some_iff.mpr ⟨_, found, ?_⟩
    refine Option.bind_eq_some_iff.mpr ⟨_, Der.readScalar?_eq_some.mpr rfl, ?_⟩
    exact Option.bind_eq_some_iff.mpr
      ⟨(sig.s, []), Der.readScalar?_eq_some.mpr (List.append_nil _).symm, rfl⟩

end SwapPayout.Ecdsa
