import SwapPayout.Proofs.AccountId
import SwapPayout.Proofs.Bridge.Building
import SwapPayout.Proofs.Sequence.Pinning

/-!
# Whose account a payout debits

A swap names its sender by an address. The balance, the trust line and the sequence number are asked
for by this address, but a payment names its account by twenty bytes, and these are derived from the
public key that the registry holds for the address. Nothing compares the two: that the key is the
address's own is left to the registry.

`debit_of_build` says what holds of every payout that was built: all questions on the paying side
were for the sender's address, the account debited is the one of the registered key, and the two are
one exactly if the address is the address of that key's account. `misled_build` is a payout for
which they are not.
-/

namespace SwapPayout.Bridge

section

variable {Λ Κ Ω : Type} [Ledger Λ] {w w' : World Λ Κ Ω} {b : Bridge} {r : SwapRequest}

/-! ## Questions -/

/-- The questions by which a plan is found solvent, last first: two balances for drops, a balance
and a trust line for an issued asset. -/
inductive Plan.Inquiry (p : Plan) (sender : String) : List Consultation → Prop where
  | native {drops : Int} {sent received : Option AccountState} (amount : p.amount = .native drops) :
      Inquiry p sender [.account p.receiver (.ok received), .account sender (.ok sent)]
  | issued {quantity : Quantity} {currency : Currency} {issuer : AccountId}
      {received : Option AccountState} {line : Option Quantity}
      (amount : p.amount = .issued quantity currency issuer) :
      Inquiry p sender
        [.trustLine sender p.token.currencyCode p.token.issuerText (.ok line),
          .account p.receiver (.ok received)]

/-- The questions by which a request comes to its number, last first: none if it has one, else the
ledger's number and the keeper's, of which the greater one is taken. -/
inductive PinInquiry (r : SwapRequest) (pinned : Pinned) : List Consultation → Prop where
  | repeated (had : r.pinned = some pinned) : PinInquiry r pinned []
  | fresh {state : Option AccountState} {given : UInt64} (unpinned : r.pinned = none)
      (sequence : pinned.sequence =
        if given < AccountState.next state then AccountState.next state else given) :
      PinInquiry r pinned [.sequence r.sender (AccountState.next state) given,
        .account r.sender (.ok state)]

theorem inquiry_of_requireSolvency {sender : String} {p : Plan}
    (h : b.requireSolvency sender p w = .ok () w') :
    ∃ asked, p.Inquiry sender asked ∧ w'.journal = asked ++ w.journal := by
  unfold requireSolvency at h
  cases amount : p.amount with
  | native drops =>
    rw [amount] at h
    obtain ⟨_, v, debit, credit⟩ := Consulting.bind_eq_ok.mp h
    obtain ⟨sent, _, -, first, -⟩ := requireReserve_eq_ok debit
    obtain ⟨received, _, -, second, -⟩ := requireReserve_eq_ok credit
    have asked : w'.journal = [.account p.receiver (.ok received), .account sender (.ok sent)]
        ++ w.journal := by
      rw [second, first]
      rfl
    exact ⟨_, .native amount, asked⟩
  | issued quantity currency issuer =>
    rw [amount] at h
    obtain ⟨_, v, reserve, holding⟩ := Consulting.bind_eq_ok.mp h
    obtain ⟨received, _, -, first, -⟩ := requireReserve_eq_ok reserve
    obtain ⟨line, -, second, -⟩ := requireHolding_eq_ok holding
    have asked : w'.journal =
        [.trustLine sender p.token.currencyCode p.token.issuerText (.ok line),
          .account p.receiver (.ok received)] ++ w.journal := by
      rw [second, first]
      rfl
    exact ⟨_, .issued amount, asked⟩

variable [SequenceKeeper Κ]

theorem inquiry_of_pin {fee : String} {pinned : Pinned} (h : pin fee r w = .ok pinned w') :
    ∃ asked, PinInquiry r pinned asked ∧ w'.journal = asked ++ w.journal := by
  rcases pin_eq_ok.mp h with ⟨had, rfl⟩ | ⟨unpinned, sequence, next, rfl⟩
  · exact ⟨[], .repeated had, rfl⟩
  · obtain ⟨state, _, given, _, -, -, number, rfl⟩ := nextSequence_eq_ok.mp next
    exact ⟨_, .fresh unpinned number, rfl⟩

/-! ## The account -/

/-- Whose account a draft debits, and what was asked before. -/
structure Debit (b : Bridge) (r : SwapRequest) (d : Draft) (asked : List Consultation) : Prop where
  key : b.registeredKey r.sender = .ok d.publicKey
  account : AccountId.ofPublicKey d.publicKey = .ok d.payment.account
  /-- The account has the sender's address exactly if the key is one of the address's account. -/
  address : d.payment.account.address = r.sender ↔
    AccountId.ofAddress r.sender = AccountId.ofPublicKey d.publicKey
  /-- Both ends were found solvent for the amount of the payment, and its number was found, by what
  was asked. -/
  inquiry : ∃ p pinned checks pinning, b.Planned r p ∧ d.payment.amount = p.amount ∧
    d.payment.sequence.toNat = pinned.sequence.toNat ∧ p.Inquiry r.sender checks ∧
    PinInquiry r pinned pinning ∧ asked = pinning ++ checks

/-- **A payout that was built debits the account of the key that is registered for its sender**, and
what was asked on the paying side was asked for the sender. -/
theorem debit_of_build {d : Draft} (h : (b.build r w).result = .ok d) :
    ∃ asked, (b.build r w).world.journal = asked ++ w.journal ∧ b.Debit r d asked := by
  obtain ⟨p, pinned, u, prepared, drafted, built⟩ := build_eq_ok.mp h
  obtain ⟨plan, v, solvent, pinning⟩ := prepare_eq_ok.mp prepared
  obtain ⟨-, planned⟩ := plan_eq_ok.mp plan
  obtain ⟨checks, checked, first⟩ := inquiry_of_requireSolvency solvent
  obtain ⟨numbered, pinnedBy, second⟩ := inquiry_of_pin pinning
  obtain ⟨payment, -⟩ := Draft.ofOrder_eq_ok.mp drafted
  obtain ⟨account, _, _, _, named, -, -, -, -, fields⟩ := PaymentOrder.payment_eq_ok.mp payment
  have pays : d.Pays p pinned := Plan.pays_of_ofOrder drafted
  have key : d.publicKey = p.publicKey := pays.publicKey
  have debited : AccountId.ofPublicKey d.publicKey = .ok d.payment.account := by
    rw [key, fields]
    exact named
  refine ⟨numbered ++ checks, ?_, ?_, debited, ?_,
    ⟨p, pinned, checks, numbered, planned, pays.amount, pays.sequence_fee.1, checked, pinnedBy,
      rfl⟩⟩
  · rw [built, second, first, List.append_assoc]
  · rw [key]
    exact planned.key
  · rw [debited, AccountId.ofAddress_eq_ok]
    exact eq_comm

end

theorem rehearsal_debit :
    ∃ d asked, (rehearsal.build (rehearsed "A") rehearsalWorld).result = .ok d ∧
      (rehearsal.build (rehearsed "A") rehearsalWorld).world.journal = asked ∧
      rehearsal.Debit (rehearsed "A") d asked := by
  obtain ⟨d, built⟩ := rehearsal_build
  obtain ⟨asked, journal, debit⟩ := debit_of_build built
  refine ⟨d, asked, built, ?_, debit⟩
  rw [journal]
  exact List.append_nil asked

/-! ## A key of another account -/

/-- The bridge of the rehearsal, with another account's key registered for its sender. -/
def misled : Bridge :=
  { rehearsal with
    registry := InMemory.registry ["ripple"] "rK8ZsqAcfkNoFzJQhApwb8Do4GhJ1nFxiy"
      [("rK8ZsqAcfkNoFzJQhApwb8Do4GhJ1nFxiy",
        "0279BE667EF9DCBBAC55A06295CE870B07029BFCDB2DCE28D959F2815B16F81798")] }

/-- **A payout can debit another account than the one that was checked**, when the registry holds
another account's key for its sender. -/
theorem misled_build :
    ∃ d, (misled.build (rehearsed "A") rehearsalWorld).result = .ok d ∧
      d.payment.account.address ≠ (rehearsed "A").sender := by
  have foreign : (misled.build (rehearsed "A") rehearsalWorld).result.map
      (fun d => d.payment.account.address == (rehearsed "A").sender) = .ok false := by
    decide +kernel
  obtain ⟨d, built, other⟩ := map_eq_ok.mp foreign
  exact ⟨d, built, beq_eq_false_iff_ne.mp other⟩

end SwapPayout.Bridge
