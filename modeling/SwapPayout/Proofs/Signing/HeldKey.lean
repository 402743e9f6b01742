import SwapPayout.Proofs.Key.Verification
import SwapPayout.Proofs.Signing.Calls

/-!
# Signing with a held key

A held key checks its own signature before it gives away a text of it. The session reads the text by
the scheme that the draft's key bytes tell, checks again, and the text is read once more for the
payment. `signWithKey_iff_accepted` says that none of this can go wrong by itself: where the draft is
for the key, signing succeeds exactly when the key's signature is accepted, and what gets into the
payment is that signature, byte for byte.

Whether a key's signature is accepted is a question of the curves. It is not decided here.
-/

namespace SwapPayout

/-! ## What a held key answers -/

namespace PrivateKey

/-- The cause of a held key that refuses its own signature. -/
def refusal (e : PayoutError) : PayoutError := .signatureRefused round e.message

section

variable {key : PrivateKey} {task : SigningTask}

variable (task) in
/-- A held key gives the text of a signature that it accepts. -/
theorem grant_of_accepted {signature : Bytes}
    (signed : key.sign task.digest task.message = .ok signature)
    (accepted : checkSignature key.publicKey task.digest task.message signature = .ok ()) :
    ∃ grant, key.grant task = .ok grant ∧
      Rsv.toSignature grant.rsv (SignatureScheme.ofKey key.publicKey) = .ok signature := by
  obtain ⟨rsv, written, read⟩ := Rsv.exists_text_of_checked accepted
  refine ⟨⟨round, rsv⟩, ?_, read⟩
  -- The text is written by the scheme of the key and read by that of its bytes.
  rw [ofKey_publicKey] at written
  refine bind_eq_ok.mpr ⟨signature, signed, ?_⟩
  refine bind_eq_ok.mpr ⟨(), mapError_eq_ok.mpr accepted, ?_⟩
  exact bind_eq_ok.mpr ⟨rsv, written, rfl⟩

theorem grant_eq_ok {grant : Grant} (h : key.grant task = .ok grant) :
    ∃ signature, key.sign task.digest task.message = .ok signature ∧
      checkSignature key.publicKey task.digest task.message signature = .ok () := by
  obtain ⟨signature, signed, h⟩ := bind_eq_ok.mp h
  obtain ⟨_, accepted, -⟩ := bind_eq_ok.mp h
  exact ⟨signature, signed, mapError_eq_ok.mp accepted⟩

/-- A held key that gives no text did not sign, or refuses its own signature. -/
theorem grant_eq_error {e : PayoutError} (h : key.grant task = .error e) :
    key.sign task.digest task.message = .error e ∨
      ∃ signature cause, key.sign task.digest task.message = .ok signature ∧
        checkSignature key.publicKey task.digest task.message signature = .error cause ∧
        e = refusal cause := by
  rcases bind_eq_error.mp h with unsigned | ⟨signature, signed, rest⟩
  · exact .inl unsigned
  · cases checked : checkSignature key.publicKey task.digest task.message signature with
    | ok _ =>
      obtain ⟨grant, given, -⟩ := grant_of_accepted task signed checked
      cases given.symm.trans h
    | error cause =>
      rcases bind_eq_error.mp rest with refused | ⟨_, accepted, -⟩
      · obtain ⟨cause', again, rfl⟩ := mapError_eq_error.mp refused
        obtain rfl := Except.error.inj (checked.symm.trans again)
        exact .inr ⟨signature, cause, signed, checked, rfl⟩
      · cases checked.symm.trans (mapError_eq_ok.mp accepted)

end

end PrivateKey

/-! ## The whole course -/

namespace Bridge

section

variable {o : PaymentOrder} {d : Draft} {key : PrivateKey}

/-- A session fails as its signer does. -/
theorem signWithKey_of_grant_eq_error {e : PayoutError} (own : d.publicKey = key.publicKey)
    (h : key.grant (Session.task { draft := d } "") = .error e) : signWithKey d key = .error e := by
  refine bind_eq_error.mpr (.inr ⟨(), checkKey_eq_ok.mpr own.symm, ?_⟩)
  have ran : Session.run d (Signer.ofKey key) "" () = .error e () := by
    apply Session.run_eq_error.mpr
    left
    simp only [Signer.ofKey, h]
  rw [ran]
  rfl

/-- **A signature that the key accepts gets into the payment.** -/
theorem exists_signWithKey {signature : Bytes} (made : Draft.ofOrder o = .ok d)
    (own : d.publicKey = key.publicKey)
    (signed : key.sign d.digest d.message = .ok signature)
    (accepted : checkSignature key.publicKey d.digest d.message signature = .ok ()) :
    ∃ s, signWithKey d key = .ok s ∧ d.SealedBy s signature := by
  obtain ⟨grant, given, read⟩ :=
    PrivateKey.grant_of_accepted (Session.task { draft := d } "") signed accepted
  rw [← own] at accepted read
  obtain ⟨s, sealed⟩ := Draft.exists_seal made read
  obtain ⟨-, signature', read', payment, blob, hash⟩ := Draft.seal_eq_ok.mp sealed
  obtain rfl : signature = signature' := Except.ok.inj (read.symm.trans read')
  refine ⟨s, ?_, Draft.sealedBy_of_verified made accepted payment blob hash⟩
  have ran : Session.run d (Signer.ofKey key) "" () = .ok s () := by
    refine Session.run_eq_ok.mpr ⟨grant, ?_, ?_, sealed⟩
    · simp only [Signer.ofKey, given]
    · exact Session.checkRsv_eq_ok.mpr ⟨signature, read, accepted⟩
  exact signWithKey_eq_ok.mpr ⟨own.symm, ran⟩

/-- **Signing with a held key has one point of failure**, the key's own signature. Where the draft
is for the key, signing succeeds exactly when that signature is accepted, and what comes out holds
that very signature; else the cause is the key's own, or says why the signature was refused. -/
theorem signWithKey_iff_accepted (made : Draft.ofOrder o = .ok d)
    (own : d.publicKey = key.publicKey) :
    ((∃ s, signWithKey d key = .ok s) ↔
      ∃ signature, key.sign d.digest d.message = .ok signature ∧
        checkSignature key.publicKey d.digest d.message signature = .ok ()) ∧
    (∀ s, signWithKey d key = .ok s →
      ∃ signature, key.sign d.digest d.message = .ok signature ∧ d.SealedBy s signature) ∧
    ∀ e, signWithKey d key = .error e →
      key.sign d.digest d.message = .error e ∨
        ∃ signature cause, key.sign d.digest d.message = .ok signature ∧
          checkSignature key.publicKey d.digest d.message signature = .error cause ∧
          e = PrivateKey.refusal cause := by
  cases granted : key.grant (Session.task { draft := d } "") with
  | ok grant =>
    obtain ⟨signature, signed, accepted⟩ := PrivateKey.grant_eq_ok granted
    obtain ⟨s, out, sealed⟩ := exists_signWithKey made own signed accepted
    refine ⟨⟨fun _ => ⟨signature, signed, accepted⟩, fun _ => ⟨s, out⟩⟩, ?_, ?_⟩
    · intro s' out'
      obtain rfl := Except.ok.inj (out.symm.trans out')
      exact ⟨signature, signed, sealed⟩
    · intro e failed
      cases out.symm.trans failed
  | error e =>
    have failed : signWithKey d key = .error e := signWithKey_of_grant_eq_error own granted
    refine ⟨⟨?_, ?_⟩, ?_, ?_⟩
    · rintro ⟨s, out⟩
      cases failed.symm.trans out
    · rintro ⟨signature, signed, accepted⟩
      obtain ⟨s, out, -⟩ := exists_signWithKey made own signed accepted
      exact ⟨s, out⟩
    · intro s out
      cases failed.symm.trans out
    · intro e' failed'
      obtain rfl := Except.error.inj (failed.symm.trans failed')
      have cause := PrivateKey.grant_eq_error granted
      exact cause

theorem rehearsal_signWithKey_iff :
    ∃ d s signature, Draft.ofOrder rehearsalOrder = .ok d ∧
      d.publicKey = rehearsalKey.publicKey ∧
      rehearsalKey.sign d.digest d.message = .ok signature ∧
      checkSignature rehearsalKey.publicKey d.digest d.message signature = .ok () ∧
      signWithKey d rehearsalKey = .ok s ∧ d.SealedBy s signature := by
  obtain ⟨d, s, made, out⟩ := rehearsal_signWithKey
  have own : d.publicKey = rehearsalKey.publicKey := (signWithKey_eq_ok.mp out).1.symm
  obtain ⟨succeeds, holds, -⟩ := signWithKey_iff_accepted made own
  obtain ⟨signature, signed, sealed⟩ := holds s out
  obtain ⟨signature', signed', accepted⟩ := succeeds.mp ⟨s, out⟩
  obtain rfl : signature = signature' := Except.ok.inj (signed.symm.trans signed')
  exact ⟨d, s, signature, made, own, signed, accepted, out, sealed⟩

end

end Bridge

end SwapPayout
