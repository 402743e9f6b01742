import Mathlib.Data.List.Forall2
import SwapPayout.World

/-!
# Outcomes that succeed

Most of the library answers a value or a cause. A law about a value that was answered starts by
asking where it came from, and this module answers that once for each way in which computations are
put together: `bind_eq_ok` for a sequence, `mapError_eq_ok` for an answer whose causes are worded
anew, `mapM_eq_ok` for a list, and the same for computations that consult the services.

Nothing here is about payouts.
-/

namespace SwapPayout

/-! ## Answers -/

section

variable {ε ε' α β : Type}

theorem exists_eq_ok {x : Except ε α} (h : x.isOk = true) : ∃ a, x = .ok a := by
  cases x with
  | error e => cases h
  | ok a => exact ⟨a, rfl⟩

theorem exists_eq_error {x : Except ε α} (h : x.isOk = false) : ∃ e, x = .error e := by
  cases x with
  | error e => exact ⟨e, rfl⟩
  | ok a => cases h

/-- What does not succeed fails. -/
theorem exists_eq_error_iff {x : Except ε α} : (∃ e, x = .error e) ↔ ¬ ∃ a, x = .ok a := by
  cases x <;> simp

/-- A sequence succeeds when both of its parts do. -/
theorem bind_eq_ok {x : Except ε α} {f : α → Except ε β} {b : β} :
    (x >>= f) = .ok b ↔ ∃ a, x = .ok a ∧ f a = .ok b := by
  cases x <;> simp [bind, Except.bind]

/-- A sequence fails when its first part does, or the second one behind it. -/
theorem bind_eq_error {x : Except ε α} {f : α → Except ε β} {e : ε} :
    (x >>= f) = .error e ↔ x = .error e ∨ ∃ a, x = .ok a ∧ f a = .error e := by
  cases x <;> simp [bind, Except.bind]

theorem map_eq_ok {x : Except ε α} {f : α → β} {b : β} :
    x.map f = .ok b ↔ ∃ a, x = .ok a ∧ f a = b := by
  cases x <;> simp [Except.map]

/-- What is made of a value is there when the value is. -/
theorem exists_map_eq_ok {x : Except ε α} {f : α → β} :
    (∃ b, x.map f = .ok b) ↔ ∃ a, x = .ok a := by
  cases x <;> simp [Except.map]

/-- Another wording of the causes changes no success. -/
theorem mapError_eq_ok {x : Except ε α} {f : ε → ε'} {a : α} :
    x.mapError f = .ok a ↔ x = .ok a := by
  cases x <;> simp [Except.mapError]

theorem mapError_eq_error {x : Except ε α} {f : ε → ε'} {e' : ε'} :
    x.mapError f = .error e' ↔ ∃ e, x = .error e ∧ f e = e' := by
  cases x <;> simp [Except.mapError]

theorem toOption_eq_some {x : Except ε α} {a : α} : x.toOption = some a ↔ x = .ok a := by
  cases x <;> simp [Except.toOption]

theorem pure_eq_ok {a b : α} : (pure a : Except ε α) = .ok b ↔ a = b := by
  simp [pure, Except.pure]

/-- A value that is only answered under a condition. -/
theorem ite_ok_eq_ok {p : Prop} [Decidable p] {e : ε} {a b : α} :
    (if p then .ok a else .error e : Except ε α) = .ok b ↔ p ∧ b = a := by
  split <;> simp_all [eq_comm]

theorem ite_ok_eq_error {p : Prop} [Decidable p] {e e' : ε} {a : α} :
    (if p then .ok a else .error e : Except ε α) = .error e' ↔ ¬ p ∧ e' = e := by
  split <;> simp_all [eq_comm]

/-- A fault that was not found. -/
theorem ite_error_eq_ok {p : Prop} [Decidable p] {e : ε} {x : Except ε α} {a : α} :
    (if p then .error e else x) = .ok a ↔ ¬ p ∧ x = .ok a := by
  split <;> simp_all

/-- A fault that was found, or one further on. -/
theorem ite_error_eq_error {p : Prop} [Decidable p] {e e' : ε} {x : Except ε α} :
    (if p then .error e else x) = .error e' ↔ p ∧ e = e' ∨ ¬ p ∧ x = .error e' := by
  split <;> simp_all

/-- A list succeeds item by item. -/
theorem mapM_eq_ok {f : α → Except ε β} {xs : List α} {ys : List β} :
    xs.mapM f = .ok ys ↔ List.Forall₂ (fun x y => f x = .ok y) xs ys := by
  induction xs generalizing ys with
  | nil =>
    rw [List.mapM_nil, pure_eq_ok, List.forall₂_nil_left_iff, eq_comm]
  | cons x xs ih =>
    rw [List.mapM_cons, bind_eq_ok, List.forall₂_cons_left_iff]
    constructor
    · rintro ⟨y, hy, rest⟩
      obtain ⟨ys', hys, eq⟩ := bind_eq_ok.mp rest
      exact ⟨y, ys', hy, ih.mp hys, (pure_eq_ok.mp eq).symm⟩
    · rintro ⟨y, ys', hy, hys, rfl⟩
      exact ⟨y, hy, bind_eq_ok.mpr ⟨ys', ih.mpr hys, rfl⟩⟩

/-- Whether a list succeeds is a question to its items. -/
theorem exists_mapM_eq_ok {f : α → Except ε β} {xs : List α} :
    (∃ ys, xs.mapM f = .ok ys) ↔ ∀ x ∈ xs, ∃ y, f x = .ok y := by
  induction xs with
  | nil => exact iff_of_true ⟨[], rfl⟩ nofun
  | cons x xs ih =>
    rw [List.forall_mem_cons, ← ih, List.mapM_cons]
    constructor
    · rintro ⟨_, h⟩
      obtain ⟨y, hy, h⟩ := bind_eq_ok.mp h
      obtain ⟨ys, hys, -⟩ := bind_eq_ok.mp h
      exact ⟨⟨y, hy⟩, ys, hys⟩
    · rintro ⟨⟨y, hy⟩, ys, hys⟩
      exact ⟨y :: ys, bind_eq_ok.mpr ⟨y, hy, bind_eq_ok.mpr ⟨ys, hys, rfl⟩⟩⟩

end

/-! ## Computations that consult the services -/

namespace Consulting

variable {Λ Κ Ω α β : Type} {w w' : World Λ Κ Ω}

/-- Does a computation succeed in this world? -/
def succeeds (x : Consulting Λ Κ Ω α) (w : World Λ Κ Ω) : Bool :=
  match x w with
  | .ok _ _ => true
  | .error _ _ => false

theorem exists_eq_ok {x : Consulting Λ Κ Ω α} (h : succeeds x w = true) :
    ∃ a w', x w = .ok a w' := by
  unfold succeeds at h
  cases ran : x w with
  | error e v => rw [ran] at h; cases h
  | ok a v => exact ⟨a, v, rfl⟩

/-- A sequence succeeds when its parts do, the second in the world that the first leaves. -/
theorem bind_eq_ok {x : Consulting Λ Κ Ω α} {f : α → Consulting Λ Κ Ω β} {b : β} :
    (x >>= f) w = .ok b w' ↔ ∃ a v, x w = .ok a v ∧ f a v = .ok b w' := by
  show EStateM.bind x f w = .ok b w' ↔ _
  rw [EStateM.bind]
  cases x w <;> simp [and_assoc]

/-- A sequence goes on in the world that its first part leaves. -/
theorem bind_of_eq_ok {x : Consulting Λ Κ Ω α} {f : α → Consulting Λ Κ Ω β} {a : α}
    (h : x w = .ok a w') : (x >>= f) w = f a w' := by
  show EStateM.bind x f w = f a w'
  rw [EStateM.bind, h]

/-- A sequence fails when its first part does, or the second one in the world that the first
leaves. -/
theorem bind_eq_error {x : Consulting Λ Κ Ω α} {f : α → Consulting Λ Κ Ω β} {e : PayoutError} :
    (x >>= f) w = .error e w' ↔
      x w = .error e w' ∨ ∃ a v, x w = .ok a v ∧ f a v = .error e w' := by
  show EStateM.bind x f w = .error e w' ↔ _
  rw [EStateM.bind]
  cases x w <;> simp [and_assoc]

theorem pure_eq_ok {a b : α} :
    (pure a : Consulting Λ Κ Ω α) w = .ok b w' ↔ a = b ∧ w = w' := by
  simp [pure, EStateM.pure]

/-- Going on with an answer needs no service. -/
theorem settle_eq_ok {answer : Except PayoutError α} {a : α} :
    (World.settle answer : Consulting Λ Κ Ω α) w = .ok a w' ↔ answer = .ok a ∧ w = w' := by
  cases answer <;> simp [World.settle]

theorem settle_eq_error {answer : Except PayoutError α} {e : PayoutError} :
    (World.settle answer : Consulting Λ Κ Ω α) w = .error e w' ↔ answer = .error e ∧ w = w' := by
  cases answer <;> simp [World.settle]

theorem mapError_eq_ok {f : PayoutError → PayoutError} {x : Consulting Λ Κ Ω α} {a : α} :
    Consulting.mapError f x w = .ok a w' ↔ x w = .ok a w' := by
  unfold Consulting.mapError
  cases x w <;> simp

/-- A check that throws when it is not passed was passed. -/
theorem ite_throw_eq_ok {p : Prop} [Decidable p] {x : Consulting Λ Κ Ω α} {e : PayoutError}
    {a : α} : (if p then x else throw e) w = .ok a w' ↔ p ∧ x w = .ok a w' := by
  split
  · next passed => exact ⟨fun h => ⟨passed, h⟩, fun h => h.2⟩
  · next missed => exact ⟨nofun, fun h => absurd h.1 missed⟩

end Consulting

/-! ## Questions -/

namespace World

variable {Λ Κ Ω : Type} {w w' : World Λ Κ Ω}

/-- An answer is entered in the world, and then gone on with. -/
theorem settle_answer {σ α : Type} {answered : Except PayoutError α × σ}
    (enter : Except PayoutError α → σ → World Λ Κ Ω) {a : α} :
    settle answered.1 (enter answered.1 answered.2) = .ok a w' ↔
      ∃ s, answered = (.ok a, s) ∧ w' = enter (.ok a) s := by
  obtain ⟨answer, s⟩ := answered
  cases answer with
  | error e => simp [settle]
  | ok found =>
    constructor
    · rintro ⟨⟩
      exact ⟨s, rfl, rfl⟩
    · rintro ⟨_, ⟨⟩, rfl⟩
      rfl

theorem account_eq_ok [Ledger Λ] {address : String} {state : Option AccountState} :
    account address w = .ok state w' ↔
      ∃ ledger, Ledger.account address w.ledger = (.ok state, ledger) ∧
        w' = { w with ledger, journal := .account address (.ok state) :: w.journal } :=
  settle_answer fun answer ledger =>
    { w with ledger, journal := .account address answer :: w.journal }

theorem trustLine_eq_ok [Ledger Λ] {address currency issuer : String} {line : Option Quantity} :
    trustLine address currency issuer w = .ok line w' ↔
      ∃ ledger, Ledger.trustLine address currency issuer w.ledger = (.ok line, ledger) ∧
        w' = { w with ledger
                      journal := .trustLine address currency issuer (.ok line) :: w.journal } :=
  settle_answer fun answer ledger =>
    { w with ledger, journal := .trustLine address currency issuer answer :: w.journal }

end World

end SwapPayout
