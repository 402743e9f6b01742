import SwapPayout.Key.Private
import SwapPayout.Key.Verification
import SwapPayout.Proofs.Key.Rsv

/-!
# Accepted signatures

A signature that the check accepts is one that its text keeps: an ECDSA signature is accepted only
in its distinguished form and only if it is low, an EdDSA signature only if it has 64 bytes. So it
is read back from its text, byte for byte (`Rsv.exists_text_of_checked`), which does not hold of
signatures in general.

The scheme is told from the bytes of a public key. For the public key of a held key these bytes give
the scheme that the key signs by (`PrivateKey.ofKey_publicKey`), because no written secp256k1 point
starts with the marker of the other scheme.
-/

namespace SwapPayout

/-! ## What is accepted -/

theorem Ecdsa.isHigh_of_verify {point : Secp256k1.Point} {digest : Bytes} {sig : Ecdsa.Signature}
    (h : Ecdsa.verify point digest sig = true) : sig.s.isHigh = false := by
  simp only [Ecdsa.verify] at h
  split at h
  · rw [Bool.and_eq_true, Bool.not_eq_true'] at h
    exact h.1
  · cases h

theorem checkEcdsa_eq_ok {key digest signature : Bytes} :
    checkEcdsa key digest signature = .ok () ↔
      ∃ point sig, Secp256k1.Point.decode? key = some point ∧
        Ecdsa.Signature.ofDer? signature = some sig ∧ Ecdsa.verify point digest sig = true := by
  unfold checkEcdsa
  cases Secp256k1.Point.decode? key with
  | none => simp
  | some point =>
    cases Ecdsa.Signature.ofDer? signature with
    | none => simp
    | some sig => simp

theorem length_of_checkEddsa {key message signature : Bytes}
    (h : checkEddsa key message signature = .ok ()) : signature.length = 64 := by
  simp only [checkEddsa] at h
  split at h
  · cases h
  · split at h
    · assumption
    · cases h

/-- **An accepted signature is read back from its text**, byte for byte. -/
theorem Rsv.exists_text_of_checked {key digest message signature : Bytes}
    (accepted : checkSignature key digest message signature = .ok ()) :
    ∃ rsv, ofSignature signature (SignatureScheme.ofKey key) = .ok rsv ∧
      toSignature rsv (SignatureScheme.ofKey key) = .ok signature := by
  simp only [checkSignature] at accepted
  cases scheme : SignatureScheme.ofKey key with
  | ecdsa =>
    rw [scheme] at accepted
    obtain ⟨point, sig, -, read, holds⟩ := checkEcdsa_eq_ok.mp accepted
    obtain rfl := Ecdsa.Signature.ofDer?_eq_some.mp read
    refine ⟨_, ofSignature_toDer sig, ?_⟩
    -- A text is read as the low signature of the pair, and this one is accepted because it is low.
    rw [toSignature_writeEcdsa, Ecdsa.Signature.normalize_of_low (Ecdsa.isHigh_of_verify holds)]
  | eddsa =>
    rw [scheme] at accepted
    exact ⟨_, rfl, toSignature_upper (length_of_checkEddsa accepted)⟩

/-! ## The scheme of a held key -/

/-- A written secp256k1 point is not marked as a key of the other scheme. -/
theorem Secp256k1.Point.ofKey_encode (p : Secp256k1.Point) :
    SignatureScheme.ofKey p.encode = .ecdsa := by
  refine if_neg ?_
  rintro ⟨-, marked⟩
  unfold encode at marked
  split at marked
  · next x y _ =>
    by_cases even : y % 2 = 0
    · rw [if_pos even] at marked
      cases marked
    · rw [if_neg even] at marked
      cases marked
  · cases marked

/-- **The bytes of a held key's public key say how the key signs.** -/
theorem PrivateKey.ofKey_publicKey (key : PrivateKey) :
    SignatureScheme.ofKey key.publicKey = key.scheme := by
  cases key with
  | secp256k1 secret => exact Secp256k1.Point.ofKey_encode _
  | ed25519 seed =>
    refine if_pos ⟨?_, rfl⟩
    show (Eddsa.publicKey seed).length + 1 = 33
    rw [Eddsa.publicKey, Ed25519.Point.length_encode]

end SwapPayout
