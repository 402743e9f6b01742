import SwapPayout.Key.Rsv
import SwapPayout.Proofs.Bytes.Hex
import SwapPayout.Proofs.Signature.Der

/-!
# Signatures and their texts

A signature that the ledger stores and its text stand for each other. What is lost on the way is
what does not belong to the signature: the case of digits, a marker in front, the last byte of an
ECDSA text, and which of the two ECDSA signatures that verify together was given, for a text is
always read as the low one. `Rsv.translation` says so for both schemes and in both directions, and
that no text is one of both.

ECDSA texts are hexadecimal text of two numbers of 32 bytes and one more byte (`isText_iff`), and the
other side is the distinguished form, so both directions rest on reading back exactly what is
written: `Hex.upper_of_decode` and `Ecdsa.Signature.ofDer?_eq_some`.

A signature is put into a payment behind its length, and lengths have a limit; a signature from a
text is never near it (`length_toSignature_le`).
-/

namespace SwapPayout

/-! ## Low signatures -/

namespace Ecdsa

open Secp256k1 (order)

/-- The low one of two scalars that lie opposite each other is the smaller one. -/
theorem Signature.val_normalize (sig : Signature) :
    sig.normalize.r.val = sig.r.val ∧
      sig.normalize.s.val = min sig.s.val (order - sig.s.val) := by
  have range : sig.s.val < order := sig.s.lt
  unfold Signature.normalize Scalar.isHigh
  split
  · next high =>
    have upper : order < 2 * sig.s.val := of_decide_eq_true high
    refine ⟨rfl, ?_⟩
    show order - sig.s.val = _
    omega
  · next low =>
    have lower : ¬ order < 2 * sig.s.val := fun h => low (decide_eq_true h)
    refine ⟨rfl, ?_⟩
    omega

theorem Signature.normalize_of_low {sig : Signature} (low : sig.s.isHigh = false) :
    sig.normalize = sig := by
  rw [normalize, low]
  rfl

/-- Normalizing gives a low signature, so once is enough. -/
theorem Signature.normalize_normalize (sig : Signature) : sig.normalize.normalize = sig.normalize := by
  obtain ⟨-, smaller⟩ := sig.val_normalize
  apply normalize_of_low
  rw [Scalar.isHigh, decide_eq_false_iff_not, smaller]
  omega

end Ecdsa

namespace Rsv

open Ecdsa (Signature)
open Secp256k1 (order)

/-! ## ECDSA texts -/

theorem length_paddedDigits (n : Nat) :
    (paddedDigits n).length = max 64 (Radix.toDigits 16 n).length := by
  simp only [paddedDigits, List.length_append, List.length_replicate, List.length_map]
  omega

theorem isDigit_of_mem_paddedDigits {n : Nat} {c : Char} (hc : c ∈ paddedDigits n) :
    Hex.isDigit c = true := by
  rcases List.mem_append.mp hc with zero | written
  · rw [List.eq_of_mem_replicate zero]
    decide
  · obtain ⟨d, hd, rfl⟩ := List.mem_map.mp written
    have digit : d < 16 := Radix.lt_of_mem_toDigits (by decide) hd
    rw [Hex.isDigit, Hex.writesDigits_upperDigit d digit]
    rfl

/-- A number of 32 bytes is written as these bytes are. -/
theorem paddedDigits_eq {n : Nat} (small : n < 2 ^ 256) :
    paddedDigits n = Hex.digits Hex.upperDigit (Bytes.ofNat 32 n) := by
  have few : (Radix.toDigits 16 n).length ≤ 64 := (Radix.length_toDigits_le_iff (by decide)).mpr small
  have zeros : List.replicate (64 - (Radix.toDigits 16 n).length) '0' =
      (List.replicate (64 - (Radix.toDigits 16 n).length) 0).map Hex.upperDigit := by
    rw [List.map_replicate]
    rfl
  rw [Hex.digits_eq_map]
  simp only [paddedDigits, List.length_map]
  rw [zeros, ← List.map_append]
  apply congrArg (List.map Hex.upperDigit)
  apply Radix.eq_of_ofDigits_eq (by decide : 1 < 16)
  · rw [List.length_append, List.length_replicate, Hex.length_nibbles, Bytes.length_ofNat]
    omega
  · intro d hd
    rcases List.mem_append.mp hd with zero | written
    · rw [List.eq_of_mem_replicate zero]
      decide
    · exact Radix.lt_of_mem_toDigits (by decide) written
  · exact fun d hd => Hex.lt_of_mem_nibbles hd
  · rw [Radix.ofDigits_replicate_zero_append, Radix.ofDigits_toDigits 16 (by decide),
      Hex.ofDigits_nibbles, Bytes.toNat_ofNat, Nat.mod_eq_of_lt small]

/-- **An ECDSA text is hexadecimal text** of two numbers of 32 bytes and a byte that is zero. -/
theorem writeEcdsa_eq {r s : Nat} (hr : r < 2 ^ 256) (hs : s < 2 ^ 256) :
    writeEcdsa r s = Hex.upper (Bytes.ofNat 32 r ++ Bytes.ofNat 32 s ++ [0]) := by
  rw [writeEcdsa, paddedDigits_eq hr, paddedDigits_eq hs, Hex.upper, Hex.digits, Hex.digits,
    Hex.digits, List.flatMap_append, List.flatMap_append]
  rfl

theorem readEcdsa_eq_ok {rsv : String} {r s : Nat} :
    readEcdsa rsv = .ok (r, s) ↔
      ∃ bytes, Hex.decode (Hex.withoutMarker rsv) = .ok bytes ∧ bytes.length = 65 ∧
        r = Bytes.toNat (bytes.take 32) ∧ s = Bytes.toNat ((bytes.drop 32).take 32) := by
  unfold readEcdsa
  constructor
  · intro h
    obtain ⟨digits, h⟩ := ite_error_eq_ok.mp h
    split at h
    · cases h
    · next bytes decoded =>
      obtain ⟨rfl, rfl⟩ := Prod.mk.inj (Except.ok.inj h)
      have full := not_not.mp digits
      rw [Hex.utf8ByteSize_of_decode decoded, ecdsaDigits] at full
      exact ⟨bytes, decoded, by omega, rfl, rfl⟩
  · rintro ⟨bytes, decoded, length, rfl, rfl⟩
    refine ite_error_eq_ok.mpr ⟨?_, ?_⟩
    · rw [Hex.utf8ByteSize_of_decode decoded, length]
      decide
    · rw [decoded]

/-- A text of two numbers: the digits of 32 bytes for each and of one more byte, in either case,
behind an optional marker. -/
def IsText (r s : Nat) (rsv : String) : Prop :=
  ∃ pad : UInt8, Hex.Spells rsv (Bytes.ofNat 32 r ++ Bytes.ofNat 32 s ++ [pad])

/-- **The texts of two numbers are those that are read as them.** -/
theorem isText_iff {r s : Nat} {rsv : String} (hr : r < 2 ^ 256) (hs : s < 2 ^ 256) :
    IsText r s rsv ↔ readEcdsa rsv = .ok (r, s) := by
  have first : (Bytes.ofNat 32 r).length = 32 := Bytes.length_ofNat 32 r
  have second : (Bytes.ofNat 32 s).length = 32 := Bytes.length_ofNat 32 s
  rw [readEcdsa_eq_ok]
  constructor
  · rintro ⟨pad, spelled⟩
    refine ⟨_, Hex.spells_iff.mp spelled, by simp, ?_, ?_⟩
    · rw [List.append_assoc, List.take_left' first, Bytes.toNat_ofNat, Nat.mod_eq_of_lt hr]
    · rw [List.append_assoc, List.drop_left' first, List.take_left' second, Bytes.toNat_ofNat,
        Nat.mod_eq_of_lt hs]
  · rintro ⟨bytes, read, length, rfl, rfl⟩
    have front : (bytes.take 32).length = 32 := by
      rw [List.length_take]
      omega
    have middle : ((bytes.drop 32).take 32).length = 32 := by
      rw [List.length_take, List.length_drop]
      omega
    obtain ⟨pad, last⟩ : ∃ pad, (bytes.drop 32).drop 32 = [pad] := by
      rw [← List.length_eq_one_iff, List.length_drop, List.length_drop, length]
    have front' := Bytes.ofNat_toNat (bytes.take 32)
    have middle' := Bytes.ofNat_toNat ((bytes.drop 32).take 32)
    rw [front] at front'
    rw [middle] at middle'
    refine ⟨pad, Hex.spells_iff.mpr ?_⟩
    rw [front', middle', ← last, List.append_assoc, List.take_append_drop, List.take_append_drop]
    exact read

theorem isText_writeEcdsa {r s : Nat} (hr : r < 2 ^ 256) (hs : s < 2 ^ 256) :
    IsText r s (writeEcdsa r s) := by
  refine ⟨0, Hex.spells_iff.mpr ?_⟩
  rw [writeEcdsa_eq hr hs]
  exact readHex_eq_ok.mp (readHex_upper _)

/-- **Two numbers of 32 bytes are read back** from their text, -/
theorem readEcdsa_writeEcdsa {r s : Nat} (hr : r < 2 ^ 256) (hs : s < 2 ^ 256) :
    readEcdsa (writeEcdsa r s) = .ok (r, s) :=
  (isText_iff hr hs).mp (isText_writeEcdsa hr hs)

/-- and a text of a larger number is refused. -/
theorem readEcdsa_writeEcdsa_of_large {r s : Nat} (large : 2 ^ 256 ≤ r ∨ 2 ^ 256 ≤ s) :
    ∃ e, readEcdsa (writeEcdsa r s) = .error e := by
  have all : ∀ c ∈ paddedDigits r ++ paddedDigits s ++ ['0', '0'], Hex.isDigit c = true := by
    intro c hc
    rcases List.mem_append.mp hc with hc | zeros
    · rcases List.mem_append.mp hc with hc | hc
      · exact isDigit_of_mem_paddedDigits hc
      · exact isDigit_of_mem_paddedDigits hc
    · rcases List.mem_pair.mp zeros with rfl | rfl
      · decide
      · decide
  have long {n : Nat} (beyond : 2 ^ 256 ≤ n) : 64 < (Radix.toDigits 16 n).length := by
    refine Nat.lt_of_not_le fun few => ?_
    have fits : n < 16 ^ 64 := (Radix.length_toDigits_le_iff (by decide)).mp few
    omega
  have size : (Hex.withoutMarker (writeEcdsa r s)).utf8ByteSize ≠ ecdsaDigits := by
    rw [writeEcdsa, Hex.withoutMarker_of_isDigit all, Hex.utf8ByteSize_of_isDigit all,
      List.length_append, List.length_append, length_paddedDigits, length_paddedDigits, ecdsaDigits]
    show max 64 _ + max 64 _ + 2 ≠ 130
    rcases large with large | large
    · have := long large
      omega
    · have := long large
      omega
  unfold readEcdsa
  exact ⟨_, if_pos size⟩

/-! ## ECDSA signatures -/

/-- A distinguished form is made of any two scalars. -/
theorem derOfNumbers_eq_ok {r s : Nat} {der : Bytes} :
    derOfNumbers r s = .ok der ↔
      ∃ sig : Signature, r = sig.r.val ∧ s = sig.s.val ∧ der = sig.normalize.toDer := by
  unfold derOfNumbers
  constructor
  · intro h
    obtain ⟨-, h⟩ := ite_error_eq_ok.mp h
    obtain ⟨-, h⟩ := ite_error_eq_ok.mp h
    split at h
    · next r' s' hr hs =>
      exact ⟨⟨r', s'⟩, Ecdsa.Scalar.ofNat?_eq_some.mp hr, Ecdsa.Scalar.ofNat?_eq_some.mp hs,
        (Except.ok.inj h).symm⟩
    · cases h
  · rintro ⟨sig, rfl, rfl, rfl⟩
    refine ite_error_eq_ok.mpr ⟨Nat.not_le.mpr sig.r.val_lt, ?_⟩
    refine ite_error_eq_ok.mpr ⟨Nat.not_le.mpr sig.s.val_lt, ?_⟩
    rw [Ecdsa.Scalar.ofNat?_val, Ecdsa.Scalar.ofNat?_val]

/-- An ECDSA text is read as the low one of the signatures that it gives. -/
theorem toSignature_ecdsa_eq_ok {rsv : String} {der : Bytes} :
    toSignature rsv .ecdsa = .ok der ↔
      ∃ sig : Signature, readEcdsa rsv = .ok (sig.r.val, sig.s.val) ∧
        der = sig.normalize.toDer := by
  refine bind_eq_ok.trans ⟨?_, ?_⟩
  · rintro ⟨⟨r, s⟩, read, h⟩
    obtain ⟨sig, rfl, rfl, rfl⟩ := derOfNumbers_eq_ok.mp h
    exact ⟨sig, read, rfl⟩
  · rintro ⟨sig, read, rfl⟩
    exact ⟨_, read, derOfNumbers_eq_ok.mpr ⟨sig, rfl, rfl, rfl⟩⟩

theorem ofSignature_ecdsa_eq_ok {der : Bytes} {rsv : String} :
    ofSignature der .ecdsa = .ok rsv ↔
      ∃ sig : Signature, der = sig.toDer ∧ rsv = writeEcdsa sig.r.val sig.s.val := by
  constructor
  · intro h
    cases found : Signature.ofDer? der with
    | none =>
      rw [ofSignature, found] at h
      cases h
    | some sig =>
      rw [ofSignature, found] at h
      exact ⟨sig, Signature.ofDer?_eq_some.mp found, (Except.ok.inj h).symm⟩
  · rintro ⟨sig, rfl, rfl⟩
    rw [ofSignature, Signature.ofDer?_eq_some.mpr rfl]

theorem ofSignature_toDer (sig : Signature) :
    ofSignature sig.toDer .ecdsa = .ok (writeEcdsa sig.r.val sig.s.val) :=
  ofSignature_ecdsa_eq_ok.mpr ⟨sig, rfl, rfl⟩

/-- The text of a signature is read as the low one of the pair. -/
theorem toSignature_writeEcdsa (sig : Signature) :
    toSignature (writeEcdsa sig.r.val sig.s.val) .ecdsa = .ok sig.normalize.toDer :=
  toSignature_ecdsa_eq_ok.mpr ⟨sig, readEcdsa_writeEcdsa sig.r.val_lt sig.s.val_lt, rfl⟩

/-! ## EdDSA signatures -/

theorem toSignature_eddsa_eq_ok {rsv : String} {signature : Bytes} :
    toSignature rsv .eddsa = .ok signature ↔
      Hex.decode (Hex.withoutMarker rsv) = .ok signature ∧ signature.length = 64 := by
  unfold toSignature
  rw [← readHex_eq_ok]
  cases readHex rsv with
  | error e => simp
  | ok bytes =>
    refine ite_ok_eq_ok.trans ⟨?_, ?_⟩
    · rintro ⟨length, rfl⟩
      exact ⟨rfl, length⟩
    · rintro ⟨⟨⟩, length⟩
      exact ⟨length, rfl⟩

/-- An EdDSA signature is read back from its text. -/
theorem toSignature_upper {signature : Bytes} (length : signature.length = 64) :
    toSignature (Hex.upper signature) .eddsa = .ok signature :=
  toSignature_eddsa_eq_ok.mpr ⟨readHex_eq_ok.mp (readHex_upper signature), length⟩

/-! ## Both schemes -/

/-- **A signature from a text has at most 72 bytes**, whatever the scheme and the text. -/
theorem length_toSignature_le {rsv : String} {scheme : SignatureScheme} {signature : Bytes}
    (h : toSignature rsv scheme = .ok signature) : signature.length ≤ 72 := by
  cases scheme with
  | ecdsa =>
    obtain ⟨sig, -, rfl⟩ := toSignature_ecdsa_eq_ok.mp h
    exact sig.normalize.length_toDer_le
  | eddsa =>
    obtain ⟨-, length⟩ := toSignature_eddsa_eq_ok.mp h
    rw [length]
    decide

/-- No text is one of both schemes: they differ in length. -/
theorem toSignature_ecdsa_of_eddsa {rsv : String} {signature : Bytes}
    (h : toSignature rsv .eddsa = .ok signature) : ∃ e, toSignature rsv .ecdsa = .error e := by
  obtain ⟨decoded, length⟩ := toSignature_eddsa_eq_ok.mp h
  cases read : toSignature rsv .ecdsa with
  | error e => exact ⟨e, rfl⟩
  | ok der =>
    obtain ⟨sig, read, -⟩ := toSignature_ecdsa_eq_ok.mp read
    obtain ⟨bytes, decoded', length', -⟩ := readEcdsa_eq_ok.mp read
    obtain rfl := Except.ok.inj (decoded.symm.trans decoded')
    omega

/-- What is kept between signatures and their texts, for both schemes and in both directions. -/
structure Translation : Prop where
  /-- Two numbers are read back from their ECDSA text where 32 bytes hold each of them, -/
  numbers : ∀ r s, r < 2 ^ 256 → s < 2 ^ 256 → readEcdsa (writeEcdsa r s) = .ok (r, s)
  /-- and refused elsewhere. -/
  large : ∀ r s, 2 ^ 256 ≤ r ∨ 2 ^ 256 ≤ s → ∃ e, readEcdsa (writeEcdsa r s) = .error e
  /-- An ECDSA text that is read holds two scalars. The signature has the text of `r` and the
  smaller one of `s` and its opposite, and that is a text of the same signature. -/
  ecdsaText : ∀ rsv der, toSignature rsv .ecdsa = .ok der → ∃ r s,
    readEcdsa rsv = .ok (r, s) ∧ (1 ≤ r ∧ r < order) ∧ (1 ≤ s ∧ s < order) ∧
      ofSignature der .ecdsa = .ok (writeEcdsa r (min s (order - s))) ∧
      toSignature (writeEcdsa r (min s (order - s))) .ecdsa = .ok der
  /-- An ECDSA signature that has a text is read back from it, byte for byte, if it is low; of a
  high one its opposite is read. -/
  ecdsaSignature : ∀ der rsv, ofSignature der .ecdsa = .ok rsv → ∃ sig,
    Signature.ofDer? der = some sig ∧
      toSignature rsv .ecdsa =
        .ok (if sig.s.val ≤ order / 2 then der else Signature.toDer ⟨sig.r, sig.s.neg⟩)
  /-- An EdDSA signature is read back from its text. -/
  eddsaSignature : ∀ signature : Bytes, signature.length = 64 → ∃ rsv,
    ofSignature signature .eddsa = .ok rsv ∧ toSignature rsv .eddsa = .ok signature
  /-- An EdDSA text that is read is the signature's up to case and marker. -/
  eddsaText : ∀ rsv signature, toSignature rsv .eddsa = .ok signature →
    ofSignature signature .eddsa = .ok (Hex.withoutMarker rsv).toUpper
  /-- No text is one of both schemes. -/
  apart : ∀ rsv signature signature', toSignature rsv .ecdsa = .ok signature →
    toSignature rsv .eddsa ≠ .ok signature'

/-- **Signatures and their texts translate into each other.** -/
theorem translation : Translation where
  numbers _ _ := readEcdsa_writeEcdsa
  large _ _ := readEcdsa_writeEcdsa_of_large
  ecdsaText := by
    intro rsv der h
    obtain ⟨sig, read, rfl⟩ := toSignature_ecdsa_eq_ok.mp h
    obtain ⟨r_eq, s_eq⟩ := sig.val_normalize
    have written := ofSignature_toDer sig.normalize
    have again := toSignature_writeEcdsa sig.normalize
    rw [r_eq, s_eq] at written again
    rw [Signature.normalize_normalize] at again
    exact ⟨_, _, read, ⟨sig.r.pos, sig.r.lt⟩, ⟨sig.s.pos, sig.s.lt⟩, written, again⟩
  ecdsaSignature := by
    intro der rsv h
    obtain ⟨sig, rfl, rfl⟩ := ofSignature_ecdsa_eq_ok.mp h
    refine ⟨sig, Signature.ofDer?_eq_some.mpr rfl, ?_⟩
    rw [toSignature_writeEcdsa]
    by_cases low : sig.s.val ≤ order / 2
    · have lower : sig.s.isHigh = false := decide_eq_false (by omega)
      rw [if_pos low, Signature.normalize_of_low lower]
    · have upper : sig.s.isHigh = true := decide_eq_true (by omega)
      rw [if_neg low, Signature.normalize, if_pos upper]
  eddsaSignature := by
    intro signature length
    exact ⟨_, rfl, toSignature_upper length⟩
  eddsaText := by
    intro rsv signature h
    obtain ⟨decoded, -⟩ := toSignature_eddsa_eq_ok.mp h
    rw [← Hex.upper_of_decode decoded]
    rfl
  apart := by
    intro rsv signature signature' ecdsa eddsa
    obtain ⟨e, refused⟩ := toSignature_ecdsa_of_eddsa eddsa
    cases ecdsa.symm.trans refused

/-- A text of `1` and the opposite of `1`, with a marker, digits in lower case and a last byte of
its own. -/
def highTwin : String :=
  "0x0000000000000000000000000000000000000000000000000000000000000001"
    ++ "fffffffffffffffffffffffffffffffebaaedce6af48a03bbfd25e8cd0364140" ++ "7f"

theorem highTwin_translated :
    toSignature highTwin .ecdsa = .ok [0x30, 6, 2, 1, 1, 2, 1, 1] ∧
      ofSignature [0x30, 6, 2, 1, 1, 2, 1, 1] .ecdsa = .ok (writeEcdsa 1 1) ∧
      toSignature (writeEcdsa 1 1) .ecdsa = .ok [0x30, 6, 2, 1, 1, 2, 1, 1] := by
  have holds : readEcdsa highTwin = .ok (1, order - 1) := by decide +kernel
  have given : toSignature highTwin .ecdsa = .ok [0x30, 6, 2, 1, 1, 2, 1, 1] :=
    toSignature_ecdsa_eq_ok.mpr
      ⟨⟨⟨1, by decide, by decide⟩, ⟨order - 1, by decide, by decide⟩⟩, holds, by decide +kernel⟩
  obtain ⟨r, s, read, -, -, written, again⟩ := translation.ecdsaText _ _ given
  obtain ⟨rfl, rfl⟩ := Prod.mk.inj (Except.ok.inj (read.symm.trans holds))
  have smaller : min (order - 1) (order - (order - 1)) = 1 := by decide +kernel
  rw [smaller] at written again
  exact ⟨given, written, again⟩

end Rsv

end SwapPayout
