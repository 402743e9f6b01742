import SwapPayout.Proofs.Bridge.Building
import SwapPayout.Proofs.Keeper
import SwapPayout.Proofs.Sequence.Pinning

/-!
# How an attempt to build goes

There are three ways, and `attempt_build` says that every build goes one of them. It is stopped
before a number is there, by the plan, by the solvency of an end, or by a ledger that does not
answer; then the request is as it was and the keeper was not asked. Or the request has its number
already, and again nobody asks the keeper. Or a number is allocated, and the request has it from
then on. Whether there is a draft in the end is decided behind all that, by the order alone.

Laws about every build, also about one that fails, are read off from these three cases.
-/

namespace SwapPayout.Bridge

section

variable {Λ Κ Ω : Type} [Ledger Λ] {b : Bridge} {r : SwapRequest} {w w' : World Λ Κ Ω}

theorem asksNoKeeper_requireSolvency (b : Bridge) (sender : String) (p : Plan) :
    (b.requireSolvency sender p : Consulting Λ Κ Ω Unit).AsksNoKeeper := by
  unfold requireSolvency
  cases p.amount with
  | native drops => exact .bind (.requireReserve _ _ _) fun _ => .requireReserve _ _ _
  | issued quantity currency issuer =>
    exact .bind (.requireReserve _ _ _) fun _ => .requireHolding _ _ _ _

variable [SequenceKeeper Κ]

/-- A build that cannot be prepared has not asked the keeper. -/
theorem keeperUnasked_of_prepare {e : PayoutError} (h : b.prepare r w = .error e w') :
    World.KeeperUnasked w w' := by
  rcases Consulting.bind_eq_error.mp h with unplanned | ⟨p, v, planned, h⟩
  · exact (Consulting.AsksNoKeeper.settle (b.plan r)).of_error unplanned
  · have before := (Consulting.AsksNoKeeper.settle (b.plan r)).of_ok planned
    have solvency : (b.requireSolvency r.sender p : Consulting Λ Κ Ω Unit).AsksNoKeeper :=
      asksNoKeeper_requireSolvency b r.sender p
    rcases Consulting.bind_eq_error.mp h with insolvent | ⟨_, u, solvent, h⟩
    · exact before.trans (solvency.of_error insolvent)
    · rcases Consulting.bind_eq_error.mp h with unpinned | ⟨_, _, -, h⟩
      · exact before.trans ((solvency.of_ok solvent).trans (keeperUnasked_of_pin unpinned))
      · cases h

/-- The ways in which an attempt to build goes. -/
inductive Attempt (b : Bridge) (r : SwapRequest) (w : World Λ Κ Ω) : Built Λ Κ Ω → Prop where
  /-- It does not come to a number. -/
  | stopped {e : PayoutError} {w' : World Λ Κ Ω} (unasked : World.KeeperUnasked w w') :
      Attempt b r w ⟨.error e, r, w'⟩
  /-- The request has its number and its fee. -/
  | repeated {p : Plan} {pinned : Pinned} {w' : World Λ Κ Ω} (plan : b.plan r = .ok p)
      (had : r.pinned = some pinned) (unasked : World.KeeperUnasked w w') :
      Attempt b r w ⟨Draft.ofOrder (p.order pinned), r, w'⟩
  /-- The request is given a number, with the fee of the chain. -/
  | allocated {p : Plan} {sequence : UInt64} {v w' : World Λ Κ Ω} (plan : b.plan r = .ok p)
      (fresh : r.pinned = none) (unasked : World.KeeperUnasked w v)
      (next : nextSequence r.sender v = .ok sequence w') :
      Attempt b r w ⟨Draft.ofOrder (p.order ⟨sequence, b.chain.feeText⟩),
        { r with pinned := some ⟨sequence, b.chain.feeText⟩ }, w'⟩

/-- **Every build goes one of the three ways.** -/
theorem attempt_build (b : Bridge) (r : SwapRequest) (w : World Λ Κ Ω) :
    b.Attempt r w (b.build r w) := by
  unfold build
  cases prepared : b.prepare r w with
  | error e w' => exact .stopped (keeperUnasked_of_prepare prepared)
  | ok found w' =>
    obtain ⟨p, pinned⟩ := found
    obtain ⟨plan, v, solvent, pinning⟩ := prepare_eq_ok.mp prepared
    have unasked : World.KeeperUnasked w v :=
      (asksNoKeeper_requireSolvency b r.sender p).of_ok solvent
    rcases pin_eq_ok.mp pinning with ⟨had, rfl⟩ | ⟨fresh, sequence, next, rfl⟩
    · have same : { r with pinned := some pinned } = r := by rw [← had]
      show b.Attempt r w ⟨_, { r with pinned := some pinned }, w'⟩
      rw [same]
      exact .repeated plan had unasked
    · exact .allocated plan fresh unasked next

/-- **Who has a number is not given another**: the keeper is not asked, and the request stays as it
is. -/
theorem Attempt.of_pinned {built : Built Λ Κ Ω} {pinned : Pinned} (h : b.Attempt r w built)
    (had : r.pinned = some pinned) : built.request = r ∧ World.KeeperUnasked w built.world := by
  cases h with
  | stopped unasked => exact ⟨rfl, unasked⟩
  | repeated _ _ unasked => exact ⟨rfl, unasked⟩
  | allocated _ fresh _ _ => cases fresh.symm.trans had

end

end SwapPayout.Bridge
