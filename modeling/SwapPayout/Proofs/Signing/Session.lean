import SwapPayout.Proofs.Payment.Draft
import SwapPayout.Signing.Session

/-!
# What a session lets through

The text of a signature is read twice, once to be checked and once to be put into the payment. Both
readings are by the scheme of the draft's key, so they give the same bytes, and what gets into the
payment is what was checked: `Draft.seal_of_checkRsv`.

`Session.run_eq_ok` and `Session.run_eq_error` take a whole course of a session apart. They say
nothing of where the text comes from: the signer is any function of its task and its state.
-/

namespace SwapPayout

/-! ## Sealing -/

/-- Sealing takes the draft's own key and a readable text, and a payment that has a wire form with
the signature in it. -/
theorem Draft.seal_eq_ok {d : Draft} {key : Bytes} {rsv : String} {s : SealedPayment} :
    d.seal key rsv = .ok s ↔
      key = d.publicKey ∧ ∃ signature,
        Rsv.toSignature rsv (SignatureScheme.ofKey key) = .ok signature ∧
        s.payment = { d.payment with txnSignature := some signature } ∧
        s.payment.wireForm = .ok s.blob ∧ s.hash = sha512Half (transactionMarker ++ s.blob) := by
  unfold Draft.seal
  constructor
  · intro h
    obtain ⟨own, h⟩ := ite_error_eq_ok.mp h
    obtain ⟨signature, read, h⟩ := bind_eq_ok.mp h
    obtain ⟨⟨blob, hash⟩, forms, h⟩ := bind_eq_ok.mp h
    obtain ⟨_, wire, named⟩ := map_eq_ok.mp (mapError_eq_ok.mp forms)
    cases named
    obtain rfl := pure_eq_ok.mp h
    exact ⟨not_not.mp own, signature, read, rfl, wire, rfl⟩
  · obtain ⟨payment, blob, hash⟩ := s
    rintro ⟨rfl, signature, read, signed, wire, named⟩
    obtain rfl : payment = { d.payment with txnSignature := some signature } := signed
    obtain rfl : hash = sha512Half (transactionMarker ++ blob) := named
    refine ite_error_eq_ok.mpr ⟨not_not.mpr rfl, ?_⟩
    refine bind_eq_ok.mpr ⟨signature, read, ?_⟩
    exact bind_eq_ok.mpr ⟨_, mapError_eq_ok.mpr (map_eq_ok.mpr ⟨blob, wire, rfl⟩), rfl⟩

namespace Session

/-! ## The check -/

theorem checkRsv_eq_ok {d : Draft} {rsv : String} :
    checkRsv d rsv = .ok () ↔
      ∃ signature, Rsv.toSignature rsv d.scheme = .ok signature ∧
        checkSignature d.publicKey d.digest d.message signature = .ok () :=
  bind_eq_ok

/-- **What gets into a payment is what was checked.** -/
theorem seal_of_checkRsv {d : Draft} {rsv : String} {s : SealedPayment}
    (checked : checkRsv d rsv = .ok ()) (sealed : d.seal d.publicKey rsv = .ok s) :
    ∃ signature, checkSignature d.publicKey d.digest d.message signature = .ok () ∧
      s.payment = { d.payment with txnSignature := some signature } ∧
      s.payment.wireForm = .ok s.blob ∧ s.hash = sha512Half (transactionMarker ++ s.blob) := by
  obtain ⟨signature, read, holds⟩ := checkRsv_eq_ok.mp checked
  obtain ⟨-, signature', read', payment, wire, hash⟩ := Draft.seal_eq_ok.mp sealed
  -- The scheme of the key is the draft's scheme, so both readings of the text are one.
  obtain rfl : signature = signature' := Except.ok.inj (read.symm.trans read')
  exact ⟨signature, holds, payment, wire, hash⟩

/-! ## The whole course -/

section

variable {σ : Type} {d : Draft} {signer : Signer σ} {context : String} {w w' : σ}
  {s : SealedPayment}

/-- **A session gives a payment** when the signer gives a text, the text passes the check, and the
draft can be sealed with it; the state is then the one that the signer leaves. -/
theorem run_eq_ok :
    run d signer context w = .ok s w' ↔
      ∃ grant, signer.sign (task { draft := d } context) w = .ok grant w' ∧
        checkRsv d grant.rsv = .ok () ∧ d.seal d.publicKey grant.rsv = .ok s := by
  unfold run ask
  cases asked : signer.sign (task { draft := d } context) w with
  | error e v => simp
  | ok grant v =>
    cases checked : checkRsv d grant.rsv with
    | error e => simp [verify, checked]
    | ok _ =>
      cases sealed : d.seal d.publicKey grant.rsv with
      | error e => simp [verify, checked, complete, sealed, Except.map]
      | ok t => simp [verify, checked, complete, sealed, Except.map, and_comm]

/-- **A session fails** as its signer does, as the text of the signature is refused, or as the draft
cannot be sealed with it. -/
theorem run_eq_error {e : PayoutError} :
    run d signer context w = .error e w' ↔
      signer.sign (task { draft := d } context) w = .error e w' ∨
        ∃ grant, signer.sign (task { draft := d } context) w = .ok grant w' ∧
          ((∃ cause, checkRsv d grant.rsv = .error cause ∧
              e = .signatureRefused grant.round cause.message) ∨
            checkRsv d grant.rsv = .ok () ∧ d.seal d.publicKey grant.rsv = .error e) := by
  unfold run ask
  cases asked : signer.sign (task { draft := d } context) w with
  | error cause v => simp
  | ok grant v =>
    cases checked : checkRsv d grant.rsv with
    | error cause => simp [verify, checked, and_comm, eq_comm]
    | ok _ =>
      cases sealed : d.seal d.publicKey grant.rsv with
      | error cause => simp [verify, checked, complete, sealed, Except.map, and_comm]
      | ok t => simp [verify, checked, complete, sealed, Except.map]

end

end Session

end SwapPayout
