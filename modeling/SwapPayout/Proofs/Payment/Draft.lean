import SwapPayout.Payment.Draft
import SwapPayout.Proofs.AccountId

/-!
# What a draft is made of

An order that becomes a draft was readable in full: its key names an account, its receiver is an
address, its sequence number fits 32 bits, its fee is an amount of drops and its paths are paths.
`PaymentOrder.payment_eq_ok` states the payment that comes of it, field by field, and
`Draft.ofOrder_eq_ok` adds that payload and digest are those of this payment. Both are equivalences,
so an order that becomes no draft fails one of these conditions.
-/

namespace SwapPayout

theorem AccountId.ofPublicKey_eq_ok {key : Bytes} {id : AccountId} :
    AccountId.ofPublicKey key = .ok id ↔
      key.length = 33 ∧ id = ⟨ripemd160 (sha256 key), length_ripemd160 _⟩ :=
  ite_ok_eq_ok

theorem AccountId.ofPublicKey_eq_error {key : Bytes} {cause : FormatError} :
    AccountId.ofPublicKey key = .error cause ↔
      key.length ≠ 33 ∧ cause = .publicKey s!"expected 33 bytes, got {key.length}" :=
  ite_ok_eq_error

namespace PaymentOrder

/-- **The payment of an order, field by field.** -/
theorem payment_eq_ok {o : PaymentOrder} {p : Payment} :
    o.payment = .ok p ↔
      ∃ account destination fee paths,
        AccountId.ofPublicKey o.publicKey = .ok account ∧
        AccountId.ofAddress o.receiver = .ok destination ∧
        o.sequence.toNat < 2 ^ 32 ∧ Drops.parse o.fee = .ok fee ∧ o.readPaths = .ok paths ∧
        p = { account, destination, paths, fee
              amount := o.amount
              destinationTag := o.tag
              memos := o.memos
              flags := o.flags
              sequence := o.sequence.toUInt32
              signingPubKey := o.publicKey
              txnSignature := none } := by
  unfold payment
  constructor
  · intro h
    obtain ⟨account, haccount, h⟩ := bind_eq_ok.mp h
    obtain ⟨destination, hdestination, h⟩ := bind_eq_ok.mp h
    obtain ⟨small, h⟩ := ite_error_eq_ok.mp h
    obtain ⟨fee, hfee, h⟩ := bind_eq_ok.mp h
    obtain ⟨paths, hpaths, h⟩ := bind_eq_ok.mp h
    exact ⟨account, destination, fee, paths, mapError_eq_ok.mp haccount,
      mapError_eq_ok.mp hdestination, Nat.lt_of_not_le small, mapError_eq_ok.mp hfee,
      mapError_eq_ok.mp hpaths, (pure_eq_ok.mp h).symm⟩
  · rintro ⟨account, destination, fee, paths, haccount, hdestination, small, hfee, hpaths, rfl⟩
    refine bind_eq_ok.mpr ⟨account, mapError_eq_ok.mpr haccount, ?_⟩
    refine bind_eq_ok.mpr ⟨destination, mapError_eq_ok.mpr hdestination, ?_⟩
    refine ite_error_eq_ok.mpr ⟨Nat.not_le.mpr small, ?_⟩
    refine bind_eq_ok.mpr ⟨fee, mapError_eq_ok.mpr hfee, ?_⟩
    exact bind_eq_ok.mpr ⟨paths, mapError_eq_ok.mpr hpaths, rfl⟩

/-- An order says nothing of a signature. -/
theorem unsigned_of_payment {o : PaymentOrder} {p : Payment} (h : o.payment = .ok p) :
    p.txnSignature = none := by
  obtain ⟨_, _, _, _, -, -, -, -, -, rfl⟩ := payment_eq_ok.mp h
  rfl

end PaymentOrder

namespace Draft

theorem ofPayment_eq_ok {p : Payment} {d : Draft} :
    ofPayment p = .ok d ↔
      d.payment = p ∧ p.signedForm = .ok d.payload ∧ p.digest = .ok d.digest := by
  refine map_eq_ok.trans ⟨?_, ?_⟩
  · rintro ⟨payload, form, rfl⟩
    exact ⟨rfl, form, map_eq_ok.mpr ⟨payload, form, rfl⟩⟩
  · obtain ⟨payment, digest, payload⟩ := d
    rintro ⟨rfl, form, hdigest⟩
    obtain ⟨payload', form', rfl⟩ := map_eq_ok.mp hdigest
    obtain rfl : payload' = payload := Except.ok.inj (form'.symm.trans form)
    exact ⟨payload', form, rfl⟩

/-- **The draft of an order**: its payment, and the payload and digest of it. -/
theorem ofOrder_eq_ok {o : PaymentOrder} {d : Draft} :
    ofOrder o = .ok d ↔
      o.payment = .ok d.payment ∧ d.payment.signedForm = .ok d.payload ∧
        d.payment.digest = .ok d.digest := by
  unfold ofOrder
  constructor
  · intro h
    obtain ⟨p, payment, h⟩ := bind_eq_ok.mp h
    obtain ⟨rfl, form, digest⟩ := ofPayment_eq_ok.mp (mapError_eq_ok.mp h)
    exact ⟨payment, form, digest⟩
  · rintro ⟨payment, form, digest⟩
    exact bind_eq_ok.mpr ⟨d.payment, payment, mapError_eq_ok.mpr
      (ofPayment_eq_ok.mpr ⟨rfl, form, digest⟩)⟩

end Draft

end SwapPayout
