import SwapPayout.Proofs.Bridge.Attempt
import SwapPayout.Proofs.Payment.Order

/-!
# What a rejected build leaves behind

A payout is planned and its ends are checked before a number is allocated for it, so most rejections
leave request and keeper as they were. But some of what an order needs is looked at only when the
order becomes a draft, and then the number is out: whether the registered key has 33 bytes, whether
the number fits 32 bits, and whether the fee of the chain is an amount of drops. `left_by_rejection`
says that these three are all; `pinned_by_rejection` is a run on which the first of them happens,
and a number is spent on a swap that can never be paid.

What else an order of a plan could be refused for is ruled out by the plan (`undraftable_of_error`):
its receiver is an address, its amount is one that the ledger moves, and it has no paths.
-/

namespace SwapPayout

/-! ## Refused orders -/

/-- Why an order has no payment. -/
inductive PaymentOrder.Refused (o : PaymentOrder) : PayoutError → Prop where
  | key {cause : FormatError} (nameless : AccountId.ofPublicKey o.publicKey = .error cause) :
      Refused o (.badPublicKey (Hex.lower o.publicKey) cause.message)
  | receiver {cause : FormatError} (unknown : AccountId.ofAddress o.receiver = .error cause) :
      Refused o (.badReceiver o.receiver)
  | sequence (large : 2 ^ 32 ≤ o.sequence.toNat) : Refused o (.sequenceTooLarge o.sequence)
  | fee {cause : FormatError} (malformed : Drops.parse o.fee = .error cause) :
      Refused o (.badFee o.fee)
  | paths {cause : FormatError} (malformed : o.readPaths = .error cause) :
      Refused o (.ofFormat cause)

theorem PaymentOrder.refused_of_payment {o : PaymentOrder} {e : PayoutError}
    (h : o.payment = .error e) : o.Refused e := by
  unfold payment at h
  rcases bind_eq_error.mp h with unnamed | ⟨account, -, h⟩
  · obtain ⟨cause, nameless, rfl⟩ := mapError_eq_error.mp unnamed
    exact .key nameless
  rcases bind_eq_error.mp h with unread | ⟨destination, -, h⟩
  · obtain ⟨cause, unknown, rfl⟩ := mapError_eq_error.mp unread
    exact .receiver unknown
  rcases ite_error_eq_error.mp h with ⟨large, rfl⟩ | ⟨-, h⟩
  · exact .sequence large
  rcases bind_eq_error.mp h with unread | ⟨fee, -, h⟩
  · obtain ⟨cause, malformed, rfl⟩ := mapError_eq_error.mp unread
    exact .fee malformed
  rcases bind_eq_error.mp h with unread | ⟨paths, -, h⟩
  · obtain ⟨cause, malformed, rfl⟩ := mapError_eq_error.mp unread
    exact .paths malformed
  · cases h

namespace Bridge

/-! ## Orders of plans -/

/-- Why the order of a plan becomes no draft. -/
inductive Plan.Undraftable (p : Plan) (pinned : Pinned) : PayoutError → Prop where
  /-- The key names no account. -/
  | key (length : p.publicKey.length ≠ 33) :
      Undraftable p pinned (.badPublicKey (Hex.lower p.publicKey)
        (FormatError.publicKey s!"expected 33 bytes, got {p.publicKey.length}").message)
  | sequence (large : 2 ^ 32 ≤ pinned.sequence.toNat) :
      Undraftable p pinned (.sequenceTooLarge pinned.sequence)
  | fee {cause : FormatError} (malformed : Drops.parse pinned.fee = .error cause) :
      Undraftable p pinned (.badFee pinned.fee)

variable {b : Bridge} {r : SwapRequest} {p : Plan} {pinned : Pinned} {e : PayoutError}

/-- The payment of a plan's order can be written, whatever is pinned. -/
theorem Planned.exists_signedForm (planned : b.Planned r p) {payment : Payment}
    (paid : (p.order pinned).payment = .ok payment) : ∃ bytes, payment.signedForm = .ok bytes := by
  obtain ⟨_, _, _, -, -, -, -, moved⟩ := planned.amount
  exact (PaymentOrder.exists_signedForm_eq_ok paid).mpr
    ⟨Token.movable_of_ledgerAmount moved, nofun⟩

/-- **A plan's order becomes a draft unless key, number or fee are in the way.** -/
theorem undraftable_of_error (planned : b.Planned r p)
    (h : Draft.ofOrder (p.order pinned) = .error e) : p.Undraftable pinned e := by
  rcases bind_eq_error.mp h with refused | ⟨payment, paid, unwritten⟩
  · cases PaymentOrder.refused_of_payment refused with
    | key nameless =>
      obtain ⟨length, rfl⟩ := AccountId.ofPublicKey_eq_error.mp nameless
      exact .key length
    | receiver unknown =>
      obtain ⟨id, known⟩ := AccountId.isAddress_iff.mp planned.address
      rw [← planned.receiver] at known
      cases known.symm.trans unknown
    | sequence large => exact .sequence large
    | fee malformed => exact .fee malformed
    | paths malformed => cases malformed
  · obtain ⟨bytes, form⟩ := planned.exists_signedForm paid
    obtain ⟨_, unwritten, -⟩ := mapError_eq_error.mp unwritten
    rw [Draft.ofPayment, form] at unwritten
    cases unwritten

/-! ## Rejections -/

section

variable {Λ Κ Ω : Type} [Ledger Λ] [SequenceKeeper Κ] {w : World Λ Κ Ω}

/-- The fee that a chain pins is an amount of drops unless it is more than there can be. -/
theorem fee_of_malformed {chain : ChainSettings} {cause : FormatError}
    (malformed : Drops.parse chain.feeText = .error cause) :
    10 ^ 17 < (chain.fee.getD 10).toNat := by
  have read : Drops.parse chain.feeText = _ := Drops.parse_toString (chain.fee.getD 10).toNat
  rw [read] at malformed
  split at malformed
  · cases malformed
  · next beyond => exact Nat.lt_of_not_le beyond

/-- **What a rejected build of a fresh request leaves behind.** Request and keeper are as they were,
unless the payout was planned and given a number, and then its key has not 33 bytes, its number does
not fit 32 bits, or the fee of the chain is more than there can be drops. -/
theorem left_by_rejection (fresh : r.pinned = none) (rejected : (b.build r w).result = .error e) :
    ((b.build r w).request = r ∧ World.KeeperUnasked w (b.build r w).world) ∨
      ∃ p sequence, b.Planned r p ∧
        (b.build r w).request = { r with pinned := some ⟨sequence, b.chain.feeText⟩ } ∧
        ((p.publicKey.length ≠ 33 ∧ e = .badPublicKey (Hex.lower p.publicKey)
            (FormatError.publicKey s!"expected 33 bytes, got {p.publicKey.length}").message) ∨
          (2 ^ 32 ≤ sequence.toNat ∧ e = .sequenceTooLarge sequence) ∨
          (10 ^ 17 < (b.chain.fee.getD 10).toNat ∧ e = .badFee b.chain.feeText)) := by
  have attempt := attempt_build b r w
  generalize b.build r w = built at attempt rejected
  cases attempt with
  | stopped unasked => exact .inl ⟨rfl, unasked⟩
  | repeated _ had _ =>
    rw [fresh] at had
    cases had
  | @allocated p sequence _ _ plan _ _ _ =>
    obtain ⟨-, planned⟩ := plan_eq_ok.mp plan
    refine .inr ⟨p, sequence, planned, rfl, ?_⟩
    cases undraftable_of_error planned rejected with
    | key length => exact .inl ⟨length, rfl⟩
    | sequence large => exact .inr (.inl ⟨large, rfl⟩)
    | fee malformed => exact .inr (.inr ⟨fee_of_malformed malformed, rfl⟩)

end

/-! ## A number that is spent in vain -/

/-- The bridge of the rehearsal, with a registered key that lacks its first byte. -/
def misregistered : Bridge :=
  { rehearsal with
    registry := InMemory.registry ["ripple"] "rK8ZsqAcfkNoFzJQhApwb8Do4GhJ1nFxiy"
      [("rK8ZsqAcfkNoFzJQhApwb8Do4GhJ1nFxiy",
        "8A88E3DD7409F195FD52DB2D3CBA5D72CA6709BF1D94121BF3748801B40F6F5C")] }

theorem misregistered_build :
    (misregistered.build (rehearsed "A") rehearsalWorld).result.isOk = false ∧
      (misregistered.build (rehearsed "A") rehearsalWorld).request.pinned = some ⟨7, "10"⟩ ∧
      (misregistered.build (rehearsed "A") rehearsalWorld).world.keeper.last?
        (rehearsed "A").sender = some 7 := by
  decide +kernel

/-- **A build can be rejected and yet leave a number behind**, with the request and with the keeper:
here the key is found too short when number and fee are pinned already. -/
theorem pinned_by_rejection :
    ∃ e, (misregistered.build (rehearsed "A") rehearsalWorld).result = .error e ∧
      (rehearsed "A").pinned = none ∧
      (misregistered.build (rehearsed "A") rehearsalWorld).request.pinned = some ⟨7, "10"⟩ ∧
      rehearsalWorld.keeper.last? (rehearsed "A").sender = none ∧
      (misregistered.build (rehearsed "A") rehearsalWorld).world.keeper.last?
        (rehearsed "A").sender = some 7 := by
  obtain ⟨failed, pinned, last⟩ := misregistered_build
  obtain ⟨e, rejected⟩ := exists_eq_error failed
  exact ⟨e, rejected, rfl, pinned, rfl, last⟩

/-- There the key is what is in the way, and nothing else. -/
theorem misregistered_left :
    ∃ e p, (misregistered.build (rehearsed "A") rehearsalWorld).result = .error e ∧
      misregistered.Planned (rehearsed "A") p ∧ p.publicKey.length ≠ 33 := by
  obtain ⟨failed, pinned, -⟩ := misregistered_build
  obtain ⟨e, rejected⟩ := exists_eq_error failed
  rcases left_by_rejection rfl rejected with ⟨unchanged, -⟩ | ⟨p, sequence, planned, request, cause⟩
  · rw [unchanged] at pinned
    cases pinned
  · rw [request] at pinned
    obtain rfl : sequence = 7 := congrArg Pinned.sequence (Option.some.inj pinned)
    rcases cause with ⟨length, -⟩ | ⟨large, -⟩ | ⟨many, -⟩
    · exact ⟨e, p, rejected, planned, length⟩
    · exact absurd large (by decide)
    · exact absurd many (by decide)

end Bridge

end SwapPayout
