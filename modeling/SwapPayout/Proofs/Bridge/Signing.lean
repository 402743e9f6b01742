import SwapPayout.InMemory.Oracle
import SwapPayout.Proofs.Bridge.Building
import SwapPayout.Proofs.Payment.SignedForm
import SwapPayout.Proofs.Signing.Session

/-!
# What a signed payout holds

No signature leaves a bridge unchecked. Whoever gives the signature text, and whatever the text is,
a payment that comes out of signing holds a signature that was checked under the draft's own key,
and is the draft's payment in all else: `sealedBy_of_run` for a session, `sealed_of_sign` for the
ways in which a bridge signs.

Of the signer only its type is used. That a network or a key gives acceptable texts is not claimed
here.
-/

namespace SwapPayout

/-! ## Sealed payments -/

/-- A sealed payment is the draft's payment with a signature that was checked, and its blob and hash
are of that payment. What was signed can be had again from the payment. -/
structure Draft.SealedBy (d : Draft) (s : SealedPayment) (signature : Bytes) : Prop where
  unsigned : d.payment.txnSignature = none
  payment : s.payment = { d.payment with txnSignature := some signature }
  verified : checkSignature d.publicKey d.digest d.message signature = .ok ()
  payload : s.payment.signedForm = .ok d.payload
  digest : s.payment.digest = .ok d.digest
  blob : s.payment.wireForm = .ok s.blob
  hash : s.hash = sha512Half (transactionMarker ++ s.blob)

/-- The draft of an order is sealed by an accepted signature in its payment. -/
theorem Draft.sealedBy_of_verified {o : PaymentOrder} {d : Draft} {s : SealedPayment}
    {signature : Bytes} (made : Draft.ofOrder o = .ok d)
    (verified : checkSignature d.publicKey d.digest d.message signature = .ok ())
    (payment : s.payment = { d.payment with txnSignature := some signature })
    (blob : s.payment.wireForm = .ok s.blob)
    (hash : s.hash = sha512Half (transactionMarker ++ s.blob)) : d.SealedBy s signature := by
  obtain ⟨ordered, payload, digest⟩ := Draft.ofOrder_eq_ok.mp made
  refine ⟨PaymentOrder.unsigned_of_payment ordered, payment, verified, ?_, ?_, blob, hash⟩
  · rw [payment, Payment.signedForm_withSignature]
    exact payload
  · rw [payment, Payment.digest_withSignature]
    exact digest

/-- **A session over the draft of an order seals it**, whoever signs. -/
theorem Session.sealedBy_of_run {σ : Type} {o : PaymentOrder} {d : Draft} {signer : Signer σ}
    {context : String} {w w' : σ} {s : SealedPayment} (made : Draft.ofOrder o = .ok d)
    (h : run d signer context w = .ok s w') : ∃ signature, d.SealedBy s signature := by
  obtain ⟨grant, -, checked, sealed⟩ := run_eq_ok.mp h
  obtain ⟨signature, verified, payment, blob, hash⟩ := seal_of_checkRsv checked sealed
  exact ⟨signature, Draft.sealedBy_of_verified made verified payment blob hash⟩

/-! ## Ways to sign -/

namespace Bridge

theorem checkReceiver_eq_ok {d : Draft} {r : SwapRequest} :
    checkReceiver d r = .ok () ↔ sameIgnoringCase d.destination.address r.receiver = true :=
  ite_ok_eq_ok.trans (and_iff_left rfl)

theorem checkKey_eq_ok {d : Draft} {key : Bytes} : checkKey d key = .ok () ↔ key = d.publicKey :=
  ite_ok_eq_ok.trans (and_iff_left rfl)

section

variable {Λ Κ Ω : Type} [Oracle Ω] {b : Bridge} {d : Draft} {r : SwapRequest} {w w' : World Λ Κ Ω}
  {s : SealedPayment}

/-- A payout is signed when it goes where the swap says and, through the network, when the sender's
registered key is the draft's; what remains is a session. -/
theorem sign_eq_ok (h : b.sign d r w = .ok s w') :
    sameIgnoringCase d.destination.address r.receiver = true ∧
      (b.signer = .network → b.registeredKey r.sender = .ok d.publicKey) ∧
      ∃ signer, Session.run d signer r.context w = .ok s w' := by
  obtain ⟨_, _, received, h⟩ := Consulting.bind_eq_ok.mp h
  obtain ⟨receiver, rfl⟩ := Consulting.settle_eq_ok.mp received
  refine ⟨checkReceiver_eq_ok.mp receiver, ?_⟩
  cases chosen : b.signer with
  | held key =>
    rw [chosen] at h
    exact ⟨nofun, Signer.ofKey key, h⟩
  | network =>
    rw [chosen] at h
    obtain ⟨key, _, looked, h⟩ := Consulting.bind_eq_ok.mp h
    obtain ⟨registered, rfl⟩ := Consulting.settle_eq_ok.mp looked
    obtain ⟨_, _, compared, ran⟩ := Consulting.bind_eq_ok.mp h
    obtain ⟨same, rfl⟩ := Consulting.settle_eq_ok.mp compared
    obtain rfl := checkKey_eq_ok.mp same
    exact ⟨fun _ => registered, Signer.network, ran⟩

end

theorem signWithKey_eq_ok {d : Draft} {key : PrivateKey} {s : SealedPayment} :
    signWithKey d key = .ok s ↔
      key.publicKey = d.publicKey ∧ Session.run d (Signer.ofKey key) "" () = .ok s () := by
  refine bind_eq_ok.trans ⟨?_, ?_⟩
  · rintro ⟨_, own, h⟩
    refine ⟨checkKey_eq_ok.mp own, ?_⟩
    cases ran : Session.run d (Signer.ofKey key) "" () with
    | error e _ => rw [ran] at h; cases h
    | ok t _ => rw [ran] at h; cases h; rfl
  · rintro ⟨own, ran⟩
    refine ⟨(), checkKey_eq_ok.mpr own, ?_⟩
    rw [ran]
    rfl

/-- **Whatever a bridge signs is sealed**, through the signing network, with the key it holds or
with a key given for the occasion. Payouts of a swap also go where the swap says, and the network is
only asked to sign with the registered key of the account that pays. -/
theorem sealed_of_sign {o : PaymentOrder} {d : Draft} (made : Draft.ofOrder o = .ok d) :
    (∀ (b : Bridge) (r : SwapRequest) {Λ Κ Ω : Type} [Oracle Ω] (w w' : World Λ Κ Ω)
        (s : SealedPayment), b.sign d r w = .ok s w' →
      (∃ signature, d.SealedBy s signature) ∧
        d.destination.address.toList.map Char.toLower = r.receiver.toList.map Char.toLower ∧
        (b.signer = .network → b.registeredKey r.sender = .ok d.publicKey)) ∧
    ∀ (key : PrivateKey) (s : SealedPayment), signWithKey d key = .ok s →
      ∃ signature, d.SealedBy s signature := by
  constructor
  · intro b r Λ Κ Ω _ w w' s h
    obtain ⟨receiver, registered, signer, ran⟩ := sign_eq_ok h
    exact ⟨Session.sealedBy_of_run made ran, sameIgnoringCase_iff.mp receiver, registered⟩
  · intro key s h
    exact Session.sealedBy_of_run made (signWithKey_eq_ok.mp h).2

/-- The key of the rehearsal's sender. -/
def rehearsalKey : PrivateKey := .ed25519 (List.replicate 32 1)

/-- An order of the rehearsal's sender, under its public key. -/
def rehearsalOrder : PaymentOrder where
  publicKey := [0xED, 0x8A, 0x88, 0xE3, 0xDD, 0x74, 0x09, 0xF1, 0x95, 0xFD, 0x52, 0xDB, 0x2D, 0x3C,
    0xBA, 0x5D, 0x72, 0xCA, 0x67, 0x09, 0xBF, 0x1D, 0x94, 0x12, 0x1B, 0xF3, 0x74, 0x88, 0x01, 0xB4,
    0x0F, 0x6F, 0x5C]
  sequence := 7
  receiver := (rehearsed "A").receiver
  amount := .native 20000000
  fee := "10"

/-- The world of the rehearsal with a network that signed the order before. -/
def signingWorld : World InMemory.LedgerState SequenceBook InMemory.OracleState where
  ledger := rehearsalLedger
  keeper := {}
  oracle := { behaviour := .fixed [
    "AF4EAEF349ED306EE01E798F201A512490284CD66F12805960CA54CA5AC3F672"
      ++ "051F91A1FDCB147DE19F90ABC49D1F2EE082F5572EC17222EBBC7EACE03DD508"] }

/-- The rehearsal's sender signs the order with the key given for the occasion. -/
theorem rehearsal_signWithKey :
    ∃ d given, Draft.ofOrder rehearsalOrder = .ok d ∧ signWithKey d rehearsalKey = .ok given := by
  obtain ⟨given, h⟩ : ∃ given, (do signWithKey (← Draft.ofOrder rehearsalOrder) rehearsalKey)
      = .ok given :=
    exists_eq_ok (by decide +kernel)
  obtain ⟨d, made, byKey⟩ := bind_eq_ok.mp h
  exact ⟨d, given, made, byKey⟩

theorem rehearsal_sealed :
    ∃ d signed given, Draft.ofOrder rehearsalOrder = .ok d ∧
      (∃ w', rehearsal.sign d (rehearsed "A") signingWorld = .ok signed w') ∧
      signWithKey d rehearsalKey = .ok given ∧
      (∃ signature, d.SealedBy signed signature) ∧
      rehearsal.registeredKey (rehearsed "A").sender = .ok d.publicKey ∧
      ∃ signature, d.SealedBy given signature := by
  obtain ⟨d, given, made, byKey⟩ := rehearsal_signWithKey
  obtain ⟨signed, w', h⟩ : ∃ signed w', (do
      rehearsal.sign (← World.settle (Draft.ofOrder rehearsalOrder)) (rehearsed "A"))
        signingWorld = .ok signed w' :=
    Consulting.exists_eq_ok (by decide +kernel)
  obtain ⟨d', v, settled, byNetwork⟩ := Consulting.bind_eq_ok.mp h
  obtain ⟨made', rfl⟩ := Consulting.settle_eq_ok.mp settled
  obtain rfl := Except.ok.inj (made.symm.trans made')
  obtain ⟨sealedByNetwork, -, registered⟩ :=
    (sealed_of_sign made).1 rehearsal (rehearsed "A") signingWorld w' signed byNetwork
  exact ⟨d, signed, given, made, ⟨w', byNetwork⟩, byKey, sealedByNetwork, registered rfl,
    (sealed_of_sign made).2 rehearsalKey given byKey⟩

end Bridge

end SwapPayout
