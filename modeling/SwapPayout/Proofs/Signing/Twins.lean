import SwapPayout.Proofs.Key.Rsv
import SwapPayout.Proofs.Payment.Order
import SwapPayout.Proofs.Payment.Reading
import SwapPayout.Proofs.Signing.Calls

/-!
# One payment for a signature and its twin

Whoever sees an ECDSA signature can make its twin, the other one of the two that verify together,
and whoever sees its text can write it in other letters. Were the sealed payment another one then,
its name would no longer be the one that is waited for. So a draft is sealed alike with all texts of
a signature and of its twin, and these texts are told in full: the digits of two numbers of 32 bytes
each and of one more byte of any value, in either case, behind an optional marker
(`Rsv.isText_iff`).

Nothing else is taken together. The signature stands in the payment's wire form, which gives the
payment back, so drafts that are sealed with the texts of two signatures come to one blob only if
these are the same signature or twins (`Draft.sealed_alike`).
-/

namespace SwapPayout

/-! ## Twins -/

namespace Ecdsa

open Secp256k1 (order)

theorem Scalar.val_inj {a b : Scalar} : a.val = b.val ↔ a = b := by
  refine ⟨fun same => ?_, congrArg Scalar.val⟩
  obtain ⟨a, _, _⟩ := a
  obtain ⟨b, _, _⟩ := b
  obtain rfl : a = b := same
  rfl

/-- **Two signatures are taken for one** when they are the same or twins. -/
theorem Signature.normalize_eq_iff {sig sig' : Signature} :
    sig.normalize = sig'.normalize ↔
      sig.r.val = sig'.r.val ∧
        min sig.s.val (order - sig.s.val) = min sig'.s.val (order - sig'.s.val) := by
  obtain ⟨r, s⟩ := sig.val_normalize
  obtain ⟨r', s'⟩ := sig'.val_normalize
  rw [← r, ← r', ← s, ← s', Scalar.val_inj, Scalar.val_inj]
  exact iff_of_eq (Signature.mk.injEq _ _ _ _)

/-- The other one of the two signatures that verify together. -/
def Signature.twin (sig : Signature) : Signature := { sig with s := sig.s.neg }

theorem Signature.normalize_twin (sig : Signature) : sig.twin.normalize = sig.normalize := by
  refine normalize_eq_iff.mpr ⟨rfl, ?_⟩
  have range : sig.s.val < order := sig.s.lt
  show min (order - sig.s.val) (order - (order - sig.s.val)) = _
  omega

theorem Signature.toDer_inj {sig sig' : Signature} : sig.toDer = sig'.toDer ↔ sig = sig' := by
  refine ⟨fun same => ?_, congrArg toDer⟩
  have read := ofDer?_eq_some.mpr same
  rw [ofDer?_eq_some.mpr rfl] at read
  exact Option.some.inj read

end Ecdsa

/-! ## Sealing -/

open Ecdsa (Signature)
open Secp256k1 (order)

/-- A text is one of at most one signature. -/
theorem Rsv.signature_of_isText {sig sig' : Signature} {rsv : String}
    (h : IsText sig.r.val sig.s.val rsv) (h' : IsText sig'.r.val sig'.s.val rsv) : sig = sig' := by
  have read := (isText_iff sig.r.val_lt sig.s.val_lt).mp h
  have read' := (isText_iff sig'.r.val_lt sig'.s.val_lt).mp h'
  obtain ⟨r, s⟩ := Prod.mk.inj (Except.ok.inj (read.symm.trans read'))
  exact congrArg₂ Signature.mk (Ecdsa.Scalar.val_inj.mp r) (Ecdsa.Scalar.val_inj.mp s)

/-- The wire form of a payment tells which signature was put into it. -/
theorem Payment.signature_of_wireForm {p : Payment} {signature signature' wire : Bytes}
    (h : ({ p with txnSignature := some signature }).wireForm = .ok wire)
    (h' : ({ p with txnSignature := some signature' }).wireForm = .ok wire) :
    signature = signature' := by
  have same := (ofWire?_wireForm h).symm.trans (ofWire?_wireForm h')
  have signatures := congrArg Payment.txnSignature (Option.some.inj same)
  exact Option.some.inj signatures

namespace Draft

variable {d : Draft} {rsv : String} {s : SealedPayment}

/-- A draft of an ECDSA key is sealed with the low one of the signature and its twin. -/
theorem seal_ecdsa (ecdsa : d.scheme = .ecdsa) :
    d.seal d.publicKey rsv = .ok s ↔
      ∃ sig : Signature, Rsv.IsText sig.r.val sig.s.val rsv ∧
        s.payment = { d.payment with txnSignature := some sig.normalize.toDer } ∧
        s.payment.wireForm = .ok s.blob ∧ s.hash = sha512Half (transactionMarker ++ s.blob) := by
  have scheme : SignatureScheme.ofKey d.publicKey = .ecdsa := ecdsa
  rw [seal_eq_ok, scheme, eq_self_iff_true, true_and]
  constructor
  · rintro ⟨signature, read, sealed⟩
    obtain ⟨sig, text, rfl⟩ := Rsv.toSignature_ecdsa_eq_ok.mp read
    exact ⟨sig, (Rsv.isText_iff sig.r.val_lt sig.s.val_lt).mpr text, sealed⟩
  · rintro ⟨sig, text, sealed⟩
    have read := (Rsv.isText_iff sig.r.val_lt sig.s.val_lt).mp text
    exact ⟨_, Rsv.toSignature_ecdsa_eq_ok.mpr ⟨sig, read, rfl⟩, sealed⟩

/-- Texts of one signature, or of one and its twin, seal a draft alike. -/
theorem seal_of_normalize_eq {sig sig' : Signature} {rsv' : String} (ecdsa : d.scheme = .ecdsa)
    (same : sig.normalize = sig'.normalize) (text : Rsv.IsText sig.r.val sig.s.val rsv)
    (text' : Rsv.IsText sig'.r.val sig'.s.val rsv') (sealed : d.seal d.publicKey rsv = .ok s) :
    d.seal d.publicKey rsv' = .ok s := by
  obtain ⟨own, ownText, holds⟩ := (seal_ecdsa ecdsa).mp sealed
  obtain rfl := Rsv.signature_of_isText text ownText
  rw [same] at holds
  exact (seal_ecdsa ecdsa).mpr ⟨sig', text', holds⟩

/-- The blobs of texts are equal when the texts are taken for those of one signature. -/
theorem blob_eq_iff {sig sig' : Signature} {rsv' : String} {s' : SealedPayment}
    (ecdsa : d.scheme = .ecdsa) (text : Rsv.IsText sig.r.val sig.s.val rsv)
    (sealed : d.seal d.publicKey rsv = .ok s) (text' : Rsv.IsText sig'.r.val sig'.s.val rsv')
    (sealed' : d.seal d.publicKey rsv' = .ok s') :
    s.blob = s'.blob ↔ sig.normalize = sig'.normalize := by
  constructor
  · intro same
    obtain ⟨own, ownText, payment, wire, -⟩ := (seal_ecdsa ecdsa).mp sealed
    obtain ⟨own', ownText', payment', wire', -⟩ := (seal_ecdsa ecdsa).mp sealed'
    obtain rfl := Rsv.signature_of_isText text ownText
    obtain rfl := Rsv.signature_of_isText text' ownText'
    rw [payment, same] at wire
    rw [payment'] at wire'
    exact Signature.toDer_inj.mp (Payment.signature_of_wireForm wire wire')
  · intro same
    have alike := seal_of_normalize_eq ecdsa same text text' sealed
    obtain rfl := Except.ok.inj (alike.symm.trans sealed')
    rfl

/-- How the sealed payments of a draft go with the texts of signatures. -/
structure SealsAlike (d : Draft) : Prop where
  /-- The texts of a signature and those of its twin seal the draft, and all of them alike, down to
  the bytes of the signature, the blob and the hash. -/
  alike : ∀ sig : Signature, ∃ s : SealedPayment,
    s.payment.txnSignature = some sig.normalize.toDer ∧
      ∀ rsv, Rsv.IsText sig.r.val sig.s.val rsv ∨ Rsv.IsText sig.r.val (order - sig.s.val) rsv →
        d.seal d.publicKey rsv = .ok s
  /-- No other text does. -/
  texts : ∀ rsv s, d.seal d.publicKey rsv = .ok s →
    ∃ sig : Signature, Rsv.IsText sig.r.val sig.s.val rsv
  /-- Texts of signatures that are neither the same nor twins give different blobs. -/
  apart : ∀ (sig sig' : Signature) (rsv rsv' : String) (s s' : SealedPayment),
    Rsv.IsText sig.r.val sig.s.val rsv → d.seal d.publicKey rsv = .ok s →
    Rsv.IsText sig'.r.val sig'.s.val rsv' → d.seal d.publicKey rsv' = .ok s' →
    (s.blob = s'.blob ↔
      sig.r.val = sig'.r.val ∧
        min sig.s.val (order - sig.s.val) = min sig'.s.val (order - sig'.s.val))

variable {o : PaymentOrder}

/-- **A signature and its twin make one payment**, and no others do. -/
theorem sealed_alike (made : ofOrder o = .ok d) (ecdsa : d.scheme = .ecdsa) : d.SealsAlike where
  alike := by
    intro sig
    have text := Rsv.isText_writeEcdsa sig.r.val_lt sig.s.val_lt
    have read := Rsv.toSignature_writeEcdsa sig
    rw [← ecdsa] at read
    obtain ⟨s, sealed⟩ := exists_seal made read
    obtain ⟨own, ownText, payment, -⟩ := (seal_ecdsa ecdsa).mp sealed
    obtain rfl := Rsv.signature_of_isText text ownText
    refine ⟨s, by rw [payment], ?_⟩
    rintro rsv (same | twin)
    · exact seal_of_normalize_eq ecdsa rfl text same sealed
    · exact seal_of_normalize_eq ecdsa sig.normalize_twin.symm text twin sealed
  texts := by
    intro rsv s sealed
    obtain ⟨sig, text, -⟩ := (seal_ecdsa ecdsa).mp sealed
    exact ⟨sig, text⟩
  apart := by
    intro sig sig' rsv rsv' s s' text sealed text' sealed'
    rw [blob_eq_iff ecdsa text sealed text' sealed', Signature.normalize_eq_iff]

open Bridge (rehearsalOrder)

/-- The order of the rehearsal, under an ECDSA key. -/
def ecdsaOrder : PaymentOrder := { rehearsalOrder with publicKey := 0x02 :: List.replicate 32 0x44 }

/-- The signature `(1, 1)`, -/
def lowSignature : Signature where
  r := ⟨1, by decide, by decide⟩
  s := ⟨1, by decide, by decide⟩

/-- and `(1, 2)`, which is another one. -/
def otherSignature : Signature := { lowSignature with s := ⟨2, by decide, by decide⟩ }

/-- A text of `(1, 1)` and one of its twin, which looks otherwise, give one payment; a text of
`(1, 2)` gives another blob. -/
theorem rehearsal_sealed_alike :
    ∃ d s s', ofOrder ecdsaOrder = .ok d ∧ d.seal d.publicKey (Rsv.writeEcdsa 1 1) = .ok s ∧
      d.seal d.publicKey Rsv.highTwin = .ok s ∧
      d.seal d.publicKey (Rsv.writeEcdsa 1 2) = .ok s' ∧ s.blob ≠ s'.blob := by
  obtain ⟨d, made⟩ : ∃ d, ofOrder ecdsaOrder = .ok d := exists_eq_ok (by decide +kernel)
  have ecdsa : d.scheme = .ecdsa := by
    rw [scheme, (faithful_of_order made).1]
    decide
  have alike := sealed_alike made ecdsa
  have text : Rsv.IsText 1 1 (Rsv.writeEcdsa 1 1) := Rsv.isText_writeEcdsa (by decide) (by decide)
  have twin : Rsv.IsText 1 (order - 1) Rsv.highTwin :=
    (Rsv.isText_iff (by decide) (by decide)).mpr (by decide +kernel)
  have other : Rsv.IsText 1 2 (Rsv.writeEcdsa 1 2) := Rsv.isText_writeEcdsa (by decide) (by decide)
  obtain ⟨s, -, sealed⟩ := alike.alike lowSignature
  obtain ⟨s', -, sealed'⟩ := alike.alike otherSignature
  have first := sealed _ (.inl text)
  have second := sealed' _ (.inl other)
  refine ⟨d, s, s', made, first, sealed _ (.inr twin), second, fun same => ?_⟩
  obtain ⟨-, equal⟩ :=
    (alike.apart lowSignature otherSignature _ _ s s' text first other second).mp same
  exact absurd equal (by decide)

end Draft

end SwapPayout
