import SwapPayout.Proofs.Outcome
import SwapPayout.Proofs.Quantity.Value
import SwapPayout.Solvency

/-!
# What the checks of solvency say

Balances are 64-bit numbers, and the checks of solvency are about sums and differences of them.
Here they are restated over unbounded numbers, so that nothing is left to wrap around: a balance
covers a reserve after a movement when the numbers say so, and the one addition that could overflow
stops at the greatest number there is.

The checks are against what the ledger answers at the time. Two questions about one account may be
answered differently, so each check names the state in which the ledger was asked, and the entry in
the journal.
-/

namespace SwapPayout

/-! ## Numbers -/

theorem toNat_addSaturating (a b : UInt64) :
    (addSaturating a b).toNat = min (a.toNat + b.toNat) (2 ^ 64 - 1) := by
  unfold addSaturating
  split
  · next fits =>
    rw [UInt64.toNat_add, Nat.mod_eq_of_lt fits]
    omega
  · next beyond =>
    rw [show (0xffffffffffffffff : UInt64).toNat = 2 ^ 64 - 1 from rfl]
    omega

/-- The drops of an account; one that does not exist has none. -/
def AccountState.drops (state : Option AccountState) : Nat :=
  (state.map (·.balance.toNat)).getD 0

/-- The number on a trust line; one that does not exist holds nothing. -/
def Quantity.held (line : Option Quantity) : ℚ := (line.map (·.value)).getD 0

namespace Movement

theorem leavesReserve_debit {drops balance required : UInt64} :
    (debit drops).leavesReserve balance required = true ↔
      drops.toNat + required.toNat ≤ balance.toNat := by
  refine decide_eq_true_iff.trans ?_
  simp only [result]
  omega

theorem leavesReserve_credit {drops balance required : UInt64} :
    (credit drops).leavesReserve balance required = true ↔
      required.toNat ≤ balance.toNat + drops.toNat := by
  refine decide_eq_true_iff.trans ?_
  simp only [result]
  omega

theorem leavesReserve_unmoved {balance required : UInt64} :
    unmoved.leavesReserve balance required = true ↔ required.toNat ≤ balance.toNat := by
  refine decide_eq_true_iff.trans ?_
  simp only [result]
  omega

end Movement

/-! ## Checks -/

section

variable {Λ Κ Ω : Type} [Ledger Λ] {w w' : World Λ Κ Ω}

/-- **The drops that an account holds are what the ledger answers.** -/
theorem dropsHeld_eq_ok {account : String} {balance : UInt64}
    (h : dropsHeld account w = .ok balance w') :
    ∃ state, Ledger.account account w.ledger = (.ok state, w'.ledger) ∧
      w'.journal = .account account (.ok state) :: w.journal ∧
      balance.toNat = AccountState.drops state := by
  obtain ⟨state, v, asked, h⟩ := Consulting.bind_eq_ok.mp h
  obtain ⟨ledger, answer, rfl⟩ := World.account_eq_ok.mp (Consulting.mapError_eq_ok.mp asked)
  obtain ⟨rfl, rfl⟩ := Consulting.pure_eq_ok.mp h
  refine ⟨state, answer, rfl, ?_⟩
  cases state <;> rfl

theorem quantityHeld_eq_ok {account currency issuer : String} {held : Quantity}
    (h : quantityHeld account currency issuer w = .ok held w') :
    ∃ line, Ledger.trustLine account currency issuer w.ledger = (.ok line, w'.ledger) ∧
      w'.journal = .trustLine account currency issuer (.ok line) :: w.journal ∧
      held.value = Quantity.held line := by
  obtain ⟨line, v, asked, h⟩ := Consulting.bind_eq_ok.mp h
  obtain ⟨ledger, answer, rfl⟩ := World.trustLine_eq_ok.mp (Consulting.mapError_eq_ok.mp asked)
  obtain ⟨rfl, rfl⟩ := Consulting.pure_eq_ok.mp h
  refine ⟨line, answer, rfl, ?_⟩
  cases line with
  | none => exact Quantity.value_zero
  | some line => rfl

theorem requireReserve_eq_ok {account : String} {movement : Movement} {required : UInt64}
    (h : requireReserve account movement required w = .ok () w') :
    ∃ state balance, Ledger.account account w.ledger = (.ok state, w'.ledger) ∧
      w'.journal = .account account (.ok state) :: w.journal ∧
      balance.toNat = AccountState.drops state ∧
      movement.leavesReserve balance required = true := by
  obtain ⟨balance, v, held, h⟩ := Consulting.bind_eq_ok.mp h
  obtain ⟨covers, h⟩ := Consulting.ite_throw_eq_ok.mp h
  obtain ⟨-, rfl⟩ := Consulting.pure_eq_ok.mp h
  obtain ⟨state, answer, entered, balance_eq⟩ := dropsHeld_eq_ok held
  exact ⟨state, balance, answer, entered, balance_eq, covers⟩

theorem requireHolding_eq_ok {account currency issuer : String} {quantity : Quantity}
    (h : requireHolding account currency issuer quantity w = .ok () w') :
    ∃ line, Ledger.trustLine account currency issuer w.ledger = (.ok line, w'.ledger) ∧
      w'.journal = .trustLine account currency issuer (.ok line) :: w.journal ∧
      quantity.value ≤ Quantity.held line := by
  obtain ⟨held, v, asked, h⟩ := Consulting.bind_eq_ok.mp h
  obtain ⟨enough, h⟩ := Consulting.ite_throw_eq_ok.mp h
  obtain ⟨-, rfl⟩ := Consulting.pure_eq_ok.mp h
  obtain ⟨line, answer, entered, held_eq⟩ := quantityHeld_eq_ok asked
  refine ⟨line, answer, entered, ?_⟩
  rw [← held_eq]
  exact Quantity.atLeast_iff.mp enough

end

end SwapPayout
