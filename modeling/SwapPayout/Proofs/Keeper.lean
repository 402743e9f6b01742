import SwapPayout.Proofs.Outcome
import SwapPayout.Solvency

/-!
# Who asks the keeper of sequence numbers

The keeper is the one service that remembers a question, so it matters who asks it. This module says
of a computation that it does not, however it ends (`AsksNoKeeper`): the keeper is left as it was,
and no question to it is entered in the journal. What is put together from such computations is one
again, and the checks of solvency are.
-/

namespace SwapPayout

def Consultation.isSequence : Consultation → Bool
  | sequence .. => true
  | account .. | trustLine .. | signature .. => false

section

variable {Λ Κ Ω : Type}

/-- From one world to the other the keeper was not asked. -/
structure World.KeeperUnasked (w w' : World Λ Κ Ω) : Prop where
  keeper : w'.keeper = w.keeper
  journal : ∃ asked, w'.journal = asked ++ w.journal ∧ ∀ c ∈ asked, c.isSequence = false

namespace World.KeeperUnasked

theorem refl (w : World Λ Κ Ω) : KeeperUnasked w w := ⟨rfl, [], rfl, nofun⟩

theorem trans {w v u : World Λ Κ Ω} (first : KeeperUnasked w v) (second : KeeperUnasked v u) :
    KeeperUnasked w u := by
  obtain ⟨early, early_eq, early_other⟩ := first.journal
  obtain ⟨late, late_eq, late_other⟩ := second.journal
  refine ⟨second.keeper.trans first.keeper, late ++ early, ?_, ?_⟩
  · rw [late_eq, early_eq, List.append_assoc]
  · intro c hc
    rcases List.mem_append.mp hc with hc | hc
    · exact late_other c hc
    · exact early_other c hc

/-- Another question was asked and entered. -/
theorem asked {w w' : World Λ Κ Ω} {c : Consultation} (keeper : w'.keeper = w.keeper)
    (journal : w'.journal = c :: w.journal) (other : c.isSequence = false) :
    KeeperUnasked w w' := by
  refine ⟨keeper, [c], journal, ?_⟩
  intro d hd
  rw [List.mem_singleton.mp hd]
  exact other

end World.KeeperUnasked

namespace Consulting

variable {α β : Type}

/-- The world that a computation leaves, whether it succeeds or fails. -/
def leaves (x : Consulting Λ Κ Ω α) (w : World Λ Κ Ω) : World Λ Κ Ω :=
  match x w with
  | .ok _ w' => w'
  | .error _ w' => w'

theorem leaves_of_ok {x : Consulting Λ Κ Ω α} {w w' : World Λ Κ Ω} {a : α}
    (h : x w = .ok a w') : x.leaves w = w' := by
  rw [leaves, h]

theorem leaves_of_error {x : Consulting Λ Κ Ω α} {w w' : World Λ Κ Ω} {e : PayoutError}
    (h : x w = .error e w') : x.leaves w = w' := by
  rw [leaves, h]

/-- A computation that does not ask the keeper, however it ends. -/
def AsksNoKeeper (x : Consulting Λ Κ Ω α) : Prop := ∀ w, World.KeeperUnasked w (x.leaves w)

namespace AsksNoKeeper

theorem of_ok {x : Consulting Λ Κ Ω α} {w w' : World Λ Κ Ω} {a : α} (h : x.AsksNoKeeper)
    (ran : x w = .ok a w') : World.KeeperUnasked w w' := by
  rw [← leaves_of_ok ran]
  exact h w

theorem of_error {x : Consulting Λ Κ Ω α} {w w' : World Λ Κ Ω} {e : PayoutError}
    (h : x.AsksNoKeeper) (ran : x w = .error e w') : World.KeeperUnasked w w' := by
  rw [← leaves_of_error ran]
  exact h w

/-! ### What computations are put together from -/

theorem pure (a : α) : AsksNoKeeper (Pure.pure a : Consulting Λ Κ Ω α) :=
  fun w => .refl w

theorem throw (e : PayoutError) : AsksNoKeeper (MonadExcept.throw e : Consulting Λ Κ Ω α) :=
  fun w => .refl w

theorem settle (answer : Except PayoutError α) :
    AsksNoKeeper (World.settle answer : Consulting Λ Κ Ω α) := by
  intro w
  cases answer with
  | error e => exact .refl w
  | ok a => exact .refl w

theorem bind {x : Consulting Λ Κ Ω α} {f : α → Consulting Λ Κ Ω β} (hx : x.AsksNoKeeper)
    (hf : ∀ a, (f a).AsksNoKeeper) : (x >>= f).AsksNoKeeper := by
  intro w
  cases ran : x w with
  | error e v =>
    rw [leaves_of_error (bind_eq_error.mpr (.inl ran))]
    exact hx.of_error ran
  | ok a v =>
    have goes_on : (x >>= f).leaves w = (f a).leaves v := by
      show (match EStateM.bind x f w with | .ok _ w' => w' | .error _ w' => w') = _
      rw [EStateM.bind, ran]
      rfl
    rw [goes_on]
    exact (hx.of_ok ran).trans (hf a v)

theorem mapError {x : Consulting Λ Κ Ω α} (f : PayoutError → PayoutError)
    (h : x.AsksNoKeeper) : (x.mapError f).AsksNoKeeper := by
  intro w
  have same : (x.mapError f).leaves w = x.leaves w := by
    unfold leaves Consulting.mapError
    cases x w <;> rfl
  rw [same]
  exact h w

theorem account [Ledger Λ] (address : String) :
    AsksNoKeeper (World.account address : Consulting Λ Κ Ω (Option AccountState)) := by
  intro w
  unfold leaves World.account
  obtain ⟨answer, ledger⟩ := Ledger.account address w.ledger
  cases answer with
  | error e => exact .asked (c := .account address (.error e)) rfl rfl rfl
  | ok state => exact .asked (c := .account address (.ok state)) rfl rfl rfl

theorem trustLine [Ledger Λ] (address currency issuer : String) :
    AsksNoKeeper (World.trustLine address currency issuer :
      Consulting Λ Κ Ω (Option Quantity)) := by
  intro w
  unfold leaves World.trustLine
  obtain ⟨answer, ledger⟩ := Ledger.trustLine address currency issuer w.ledger
  cases answer with
  | error e => exact .asked (c := .trustLine address currency issuer (.error e)) rfl rfl rfl
  | ok line => exact .asked (c := .trustLine address currency issuer (.ok line)) rfl rfl rfl

/-! ### The checks of solvency -/

theorem dropsHeld [Ledger Λ] (address : String) :
    AsksNoKeeper (SwapPayout.dropsHeld address : Consulting Λ Κ Ω UInt64) :=
  bind ((account address).mapError _) fun _ => pure _

theorem quantityHeld [Ledger Λ] (address currency issuer : String) :
    AsksNoKeeper (SwapPayout.quantityHeld address currency issuer :
      Consulting Λ Κ Ω Quantity) :=
  bind ((trustLine address currency issuer).mapError _) fun _ => pure _

theorem requireReserve [Ledger Λ] (address : String) (movement : Movement) (required : UInt64) :
    AsksNoKeeper (SwapPayout.requireReserve address movement required :
      Consulting Λ Κ Ω Unit) := by
  refine bind (dropsHeld address) fun balance => ?_
  split
  · exact pure _
  · exact throw _

theorem requireHolding [Ledger Λ] (address currency issuer : String) (quantity : Quantity) :
    AsksNoKeeper (SwapPayout.requireHolding address currency issuer quantity :
      Consulting Λ Κ Ω Unit) := by
  refine bind (quantityHeld address currency issuer) fun held => ?_
  split
  · exact pure _
  · exact throw _

end AsksNoKeeper

end Consulting

end

end SwapPayout
