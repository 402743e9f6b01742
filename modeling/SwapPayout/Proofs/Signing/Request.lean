import SwapPayout.Proofs.Payment.Order
import SwapPayout.Proofs.Signing.Network

/-!
# What the network is asked to sign

Three places go by the scheme of a key: what the network is asked to sign, under which key it finds
its shares, and what a signature is checked against. They agree. The content of a request is read as
the very bytes that the check goes by, and its key as the key that the check takes the signature's
point from (`SignatureScheme.checkSignature_eq`); so an honest answer to the request is not refused
for what was asked.

The session over a draft puts this one request and goes by the count of texts in the answer: one
text is kept as it is, and any other count is the cause of the failure
(`Session.asks_what_is_checked`).
-/

namespace SwapPayout

/-! ## One scheme, three uses -/

namespace SignatureScheme

/-- What signatures of a scheme are made for: the digest, or the message itself. -/
def subject : SignatureScheme → (digest message : Bytes) → Bytes
  | ecdsa, digest, _ => digest
  | eddsa, _, message => message

/-- What stands in front of the keys of a scheme on the ledger. -/
def marker : SignatureScheme → Bytes
  | ecdsa => []
  | eddsa => [eddsaMarker]

/-- Checks a signature of a scheme against what it was made for. -/
def check : SignatureScheme → (key subject signature : Bytes) → Except PayoutError Unit
  | ecdsa => checkEcdsa
  | eddsa => checkEddsa

/-- **The content of a request is read as what the signature is made for**, -/
theorem readHex_content (scheme : SignatureScheme) (digest message : Bytes) :
    readHex (scheme.content digest message) = .ok (scheme.subject digest message) := by
  refine readHex_eq_ok.mpr (Hex.spells_iff.mp ?_)
  cases scheme with
  | ecdsa =>
    exact ⟨"", by decide, _, String.empty_append.symm, Hex.decode_eq_ok.mp (Hex.decode_upper digest)⟩
  | eddsa => exact ⟨"0x", by decide, _, rfl, Hex.decode_eq_ok.mp (Hex.decode_lower message)⟩

/-- its key as the key behind the marker, -/
theorem exists_readHex_networkKey (key : Bytes) :
    ∃ bare, readHex ((ofKey key).networkKey key) = .ok bare ∧ key = (ofKey key).marker ++ bare := by
  have plain (bytes : Bytes) : readHex (Hex.lower bytes) = .ok bytes :=
    readHex_eq_ok.mpr (Hex.spells_iff.mp ⟨"", by decide, _, String.empty_append.symm,
      Hex.decode_eq_ok.mp (Hex.decode_lower bytes)⟩)
  unfold ofKey
  split
  · next marked =>
    obtain ⟨bare, rfl⟩ := List.head?_eq_some_iff.mp marked.2
    exact ⟨bare, plain bare, rfl⟩
  · exact ⟨key, plain key, rfl⟩

/-- and both are what the check goes by. -/
theorem checkSignature_eq (key digest message signature : Bytes) :
    checkSignature key digest message signature =
      (ofKey key).check key ((ofKey key).subject digest message) signature := by
  unfold checkSignature
  cases ofKey key with
  | ecdsa => rfl
  | eddsa => rfl

end SignatureScheme

/-- A request asks for a signature that the check of a draft goes by. -/
structure Draft.AskedBy (d : Draft) (request : OracleRequest) : Prop where
  /-- The scheme is the one that the check finds in the key. -/
  scheme : request.scheme = SignatureScheme.ofKey d.publicKey
  /-- The content is read as the bytes that signatures are checked against: the digest of 32 bytes,
  or the payment's signed form behind its marker. -/
  content : ∃ content, readHex request.content = .ok content ∧
    (∀ signature, checkSignature d.publicKey d.digest d.message signature =
      request.scheme.check d.publicKey content signature) ∧
    (request.scheme = .ecdsa → content = d.digest ∧ content.length = 32) ∧
    (request.scheme = .eddsa → content = signingMarker ++ d.payload)
  /-- The key is read as the draft's, without the marker of an ed25519 key. -/
  publicKey : ∃ key, readHex request.publicKey = .ok key ∧
    (request.scheme = .ecdsa → d.publicKey = key) ∧
    (request.scheme = .eddsa → d.publicKey = eddsaMarker :: key)

/-- **The network is asked to sign what the check goes by.** -/
theorem Draft.askedBy_toNetwork {o : PaymentOrder} {d : Draft} (made : ofOrder o = .ok d)
    (context : String) : d.AskedBy (d.toNetwork context) where
  scheme := rfl
  content := by
    obtain ⟨-, faithful⟩ := faithful_of_order made
    refine ⟨_, SignatureScheme.readHex_content d.scheme d.digest d.message,
      SignatureScheme.checkSignature_eq d.publicKey d.digest d.message, ?_, ?_⟩
    · intro ecdsa
      have subject : d.scheme.subject d.digest d.message = d.digest := by
        rw [show d.scheme = .ecdsa from ecdsa]
        rfl
      rw [subject, faithful.digest]
      exact ⟨rfl, length_sha512Half _⟩
    · intro eddsa
      rw [show d.scheme = .eddsa from eddsa]
      rfl
  publicKey := by
    obtain ⟨key, read, cut⟩ := SignatureScheme.exists_readHex_networkKey d.publicKey
    refine ⟨key, read, ?_, ?_⟩
    · intro ecdsa
      rw [show SignatureScheme.ofKey d.publicKey = .ecdsa from ecdsa] at cut
      exact cut
    · intro eddsa
      rw [show SignatureScheme.ofKey d.publicKey = .eddsa from eddsa] at cut
      exact cut

/-! ## Asking -/

namespace Session

/-- What a session comes to behind an answer that gives a text, or does not. -/
def answered (d : Draft) : Except PayoutError Grant → Except PayoutError Unit × Session
  | .ok grant => (.ok (), { draft := d, stage := .signed grant })
  | .error e => (.error e, { draft := d, stage := .failed })

/-- The network's answer is all that the session goes by. -/
theorem ask_network {Λ Κ Ω : Type} [Oracle Ω] {d : Draft} {context : String} {w : World Λ Κ Ω}
    {answer : Except PayoutError OracleReply}
    (given : (Oracle.sign (d.toNetwork context) w.oracle).1 = answer) :
    ask { draft := d } .network context w =
      ((answered d (answer >>= OracleReply.grant)).1, (answered d (answer >>= OracleReply.grant)).2,
        w.asked (d.toNetwork context)) := by
  have signed := Signer.network_sign (task { draft := d } context) w
  rw [show (task { draft := d } context).toNetwork = d.toNetwork context from rfl, given] at signed
  simp only [ask, signed]
  cases answer >>= OracleReply.grant <;> rfl

/-- What a session over a draft makes of the network's answer to its request. -/
structure Asked (d : Draft) (answer : Except PayoutError OracleReply)
    (outcome : Except PayoutError Unit) (s : Session) : Prop where
  /-- The session is over the draft as it was. -/
  draft : s.draft = d
  /-- It is signed exactly when the answer holds one text, and keeps the text as it is. -/
  signed : ∀ grant, s.stage = .signed grant ↔
    ∃ reply, answer = .ok reply ∧ reply.rsvs = [grant.rsv] ∧ grant.round = reply.round
  /-- Otherwise it failed, and only then it says so. -/
  failed : (∃ e, outcome = .error e) ↔ s.stage = .failed
  /-- The cause is any other count of texts, -/
  miscounted : ∀ reply, answer = .ok reply → reply.rsvs.length ≠ 1 →
    outcome = .error (.signatureCount reply.rsvs.length reply.round)
  /-- or what kept the network from answering. -/
  unanswered : ∀ e, answer = .error e → outcome = .error e

theorem asked_answered (d : Draft) (answer : Except PayoutError OracleReply) :
    Asked d answer (answered d (answer >>= OracleReply.grant)).1
      (answered d (answer >>= OracleReply.grant)).2 := by
  have ok {grant : Grant} : (answer >>= OracleReply.grant) = .ok grant ↔
      ∃ reply, answer = .ok reply ∧ reply.rsvs = [grant.rsv] ∧ grant.round = reply.round := by
    rw [bind_eq_ok]
    simp only [OracleReply.grant_eq_ok]
  have error {e : PayoutError} : (answer >>= OracleReply.grant) = .error e ↔
      answer = .error e ∨ ∃ reply, answer = .ok reply ∧
        reply.rsvs.length ≠ 1 ∧ e = .signatureCount reply.rsvs.length reply.round := by
    rw [bind_eq_error]
    simp only [OracleReply.grant_eq_error]
  refine ⟨?draft, fun grant => ?signed, ?failed, fun reply given several => ?miscounted,
    fun e given => ?unanswered⟩
  case draft => cases answer >>= OracleReply.grant <;> rfl
  case signed =>
    rw [← ok]
    cases answer >>= OracleReply.grant <;> simp [answered]
  case failed => cases answer >>= OracleReply.grant <;> simp [answered]
  case miscounted => rw [error.mpr (.inr ⟨reply, given, several, rfl⟩), answered]
  case unanswered => rw [error.mpr (.inl given), answered]

/-- **A session asks the network for what it will check**, once, and keeps the one text of the
answer. -/
theorem asks_what_is_checked {Λ Κ Ω : Type} [Oracle Ω] {o : PaymentOrder} {d : Draft}
    (made : Draft.ofOrder o = .ok d) (context : String) (w : World Λ Κ Ω) :
    d.AskedBy (d.toNetwork context) ∧ ∃ outcome s,
      ask { draft := d } .network context w = (outcome, s, w.asked (d.toNetwork context)) ∧
        Asked d (Oracle.sign (d.toNetwork context) w.oracle).1 outcome s :=
  ⟨Draft.askedBy_toNetwork made context, _, _, ask_network rfl, asked_answered d _⟩

open Bridge (rehearsalOrder signingWorld)

/-- The network of the rehearsal is asked for a signature of the marked form, under the key without
its marker, and its one text is kept. -/
theorem rehearsal_asked :
    ∃ d key, Draft.ofOrder rehearsalOrder = .ok d ∧
      readHex (d.toNetwork "swap").content = .ok (signingMarker ++ d.payload) ∧
      readHex (d.toNetwork "swap").publicKey = .ok key ∧ d.publicKey = eddsaMarker :: key ∧
      ∃ round rsv s, ask { draft := d } .network "swap" signingWorld =
        (.ok (), s, signingWorld.asked (d.toNetwork "swap")) ∧ s.stage = .signed ⟨round, rsv⟩ := by
  obtain ⟨d, made⟩ : ∃ d, Draft.ofOrder rehearsalOrder = .ok d := exists_eq_ok (by decide +kernel)
  obtain ⟨asked, outcome, s, ran, result⟩ := asks_what_is_checked made "swap" signingWorld
  have eddsa : (d.toNetwork "swap").scheme = .eddsa := by
    rw [asked.scheme, (Draft.faithful_of_order made).1]
    decide
  obtain ⟨content, read, -, -, message⟩ := asked.content
  obtain ⟨key, known, -, marked⟩ := asked.publicKey
  obtain ⟨round, rsv, answered⟩ : ∃ round rsv,
      (Oracle.sign (d.toNetwork "swap") signingWorld.oracle).1 = .ok ⟨round, [rsv]⟩ := ⟨_, _, rfl⟩
  have signed : s.stage = .signed ⟨round, rsv⟩ :=
    (result.signed ⟨round, rsv⟩).mpr ⟨_, answered, rfl, rfl⟩
  have succeeded : outcome = .ok () := by
    cases outcome with
    | ok _ => rfl
    | error e =>
      have failed := result.failed.mp ⟨e, rfl⟩
      cases signed.symm.trans failed
  rw [message eddsa] at read
  rw [succeeded] at ran
  exact ⟨d, key, made, read, known, marked eddsa, round, rsv, s, ran, signed⟩

end Session

end SwapPayout
