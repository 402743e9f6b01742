import SwapPayout.Proofs.Keeper
import SwapPayout.Sequence.Pinning

/-!
# Where a pinned number comes from

A swap's number is asked for in two questions, the second of which cannot fail: the ledger says the
account's number, and the keeper gives one for it. So either both are in the journal and the keeper
has handed out a number (`nextSequence_eq_ok`), or the keeper was not asked at all
(`keeperUnasked_of_nextSequence`). What is pinned for a swap already is taken as it is, and nobody
is asked (`pin_eq_ok`).
-/

namespace SwapPayout

/-- An account's number on the ledger; zero for an account that does not exist. -/
def AccountState.next (state : Option AccountState) : UInt64 :=
  (state.map (·.sequence.toUInt64)).getD 0

/-- The ledger's numbers have 32 bits. -/
theorem AccountState.toNat_next_lt (state : Option AccountState) :
    (AccountState.next state).toNat < 2 ^ 32 := by
  cases state with
  | none => decide
  | some state =>
    show state.sequence.toUInt64.toNat < 2 ^ 32
    rw [UInt32.toNat_toUInt64]
    exact state.sequence.toNat_lt

section

variable {Λ Κ Ω : Type} [Ledger Λ] {w w' : World Λ Κ Ω}

theorem asksNoKeeper_ledgerSequence (address : String) :
    (ledgerSequence address : Consulting Λ Κ Ω UInt64).AsksNoKeeper :=
  .bind ((Consulting.AsksNoKeeper.account address).mapError _) fun _ => .pure _

theorem ledgerSequence_eq_ok {address : String} {fetched : UInt64} :
    ledgerSequence address w = .ok fetched w' ↔
      ∃ state ledger, Ledger.account address w.ledger = (.ok state, ledger) ∧
        fetched = AccountState.next state ∧
        w' = { w with ledger, journal := .account address (.ok state) :: w.journal } := by
  refine Consulting.bind_eq_ok.trans ⟨?_, ?_⟩
  · rintro ⟨state, v, asked, h⟩
    obtain ⟨ledger, answer, rfl⟩ := World.account_eq_ok.mp (Consulting.mapError_eq_ok.mp asked)
    obtain ⟨rfl, rfl⟩ := Consulting.pure_eq_ok.mp h
    exact ⟨state, ledger, answer, rfl, rfl⟩
  · rintro ⟨state, ledger, answer, rfl, rfl⟩
    exact ⟨state, _, Consulting.mapError_eq_ok.mpr (World.account_eq_ok.mpr ⟨ledger, answer, rfl⟩),
      rfl⟩

variable [SequenceKeeper Κ]

/-- **A number is the keeper's answer to the ledger's**, or the ledger's own where the keeper's is
below it. Both questions are in the journal. -/
theorem nextSequence_eq_ok {address : String} {sequence : UInt64} :
    nextSequence address w = .ok sequence w' ↔
      ∃ state ledger given keeper,
        Ledger.account address w.ledger = (.ok state, ledger) ∧
        SequenceKeeper.allocate address (AccountState.next state) w.keeper = (given, keeper) ∧
        sequence = (if given < AccountState.next state then AccountState.next state else given) ∧
        w' = { w with
          ledger, keeper
          journal := .sequence address (AccountState.next state) given ::
            .account address (.ok state) :: w.journal } := by
  refine Consulting.bind_eq_ok.trans ⟨?_, ?_⟩
  · rintro ⟨fetched, v, fetching, h⟩
    obtain ⟨state, ledger, answer, rfl, rfl⟩ := ledgerSequence_eq_ok.mp fetching
    obtain ⟨given, u, allocating, h⟩ := Consulting.bind_eq_ok.mp h
    obtain ⟨rfl, rfl⟩ := Consulting.pure_eq_ok.mp h
    cases allocating
    exact ⟨state, ledger, _, _, answer, rfl, rfl, rfl⟩
  · rintro ⟨state, ledger, given, keeper, answer, allocated, rfl, rfl⟩
    refine ⟨_, _, ledgerSequence_eq_ok.mpr ⟨state, ledger, answer, rfl, rfl⟩, ?_⟩
    refine Consulting.bind_eq_ok.mpr ⟨given, _, ?_, rfl⟩
    simp only [World.allocate, allocated]

/-- A number that is not had was not asked of the keeper. -/
theorem keeperUnasked_of_nextSequence {address : String} {e : PayoutError}
    (h : nextSequence address w = .error e w') : World.KeeperUnasked w w' := by
  rcases Consulting.bind_eq_error.mp h with unread | ⟨fetched, v, -, h⟩
  · exact (asksNoKeeper_ledgerSequence address).of_error unread
  · -- The keeper always answers.
    rcases Consulting.bind_eq_error.mp h with refused | ⟨_, _, -, h⟩
    · cases refused
    · cases h

/-- What a swap has pinned is taken as it is; otherwise it is pinned now, with the next number. -/
theorem pin_eq_ok {fee : String} {r : SwapRequest} {pinned : Pinned} :
    pin fee r w = .ok pinned w' ↔
      (r.pinned = some pinned ∧ w' = w) ∨
        (r.pinned = none ∧ ∃ sequence, nextSequence r.sender w = .ok sequence w' ∧
          pinned = ⟨sequence, fee⟩) := by
  unfold pin
  cases r.pinned with
  | some found => simp [Consulting.pure_eq_ok, eq_comm]
  | none =>
    refine Consulting.bind_eq_ok.trans ⟨?_, ?_⟩
    · rintro ⟨sequence, v, asked, h⟩
      obtain ⟨rfl, rfl⟩ := Consulting.pure_eq_ok.mp h
      exact .inr ⟨rfl, sequence, asked, rfl⟩
    · rintro (⟨⟨⟩, -⟩ | ⟨-, sequence, asked, rfl⟩)
      exact ⟨sequence, w', asked, rfl⟩

theorem keeperUnasked_of_pin {fee : String} {r : SwapRequest} {e : PayoutError}
    (h : pin fee r w = .error e w') : World.KeeperUnasked w w' := by
  unfold pin at h
  cases pinned : r.pinned with
  | some found =>
    rw [pinned] at h
    cases h
  | none =>
    rw [pinned] at h
    rcases Consulting.bind_eq_error.mp h with failed | ⟨_, _, -, h⟩
    · exact keeperUnasked_of_nextSequence failed
    · cases h

end

end SwapPayout
