import SwapPayout.Proofs.Sequence.Pinning

/-!
# Who is to blame for a failure

A cause is worth retrying when something did not answer. Most of the library fails without asking
anybody, and such a cause is a lasting one (`Lasting`). What asks the ledger is to be retried
exactly when a question to it was not answered, for whatever reason the ledger gave, and it never
goes on without the answer (`Consulting.BlamesLedger`).

Both are laws of parts that carry over to what is put together from them, and each part of building
has one of them. The signing network words its own causes and has no place here.
-/

namespace SwapPayout

/-! ## Lasting causes -/

/-- An answer that is no cause worth retrying. -/
def Lasting {α : Type} (x : Except PayoutError α) : Prop :=
  ∀ e, x = .error e → e.worthRetrying = false

namespace Lasting

variable {ε α β : Type}

theorem ok (a : α) : Lasting (.ok a) := nofun

theorem error {e : PayoutError} (h : e.worthRetrying = false) :
    Lasting (.error e : Except PayoutError α) := by
  rintro _ ⟨⟩
  exact h

theorem bind {x : Except PayoutError α} {f : α → Except PayoutError β} (hx : Lasting x)
    (hf : ∀ a, Lasting (f a)) : Lasting (x >>= f) := by
  intro e h
  rcases bind_eq_error.mp h with first | ⟨a, -, second⟩
  · exact hx e first
  · exact hf a e second

/-- What every cause is worded as is not worth retrying. -/
theorem mapError {x : Except ε α} {f : ε → PayoutError} (h : ∀ e, (f e).worthRetrying = false) :
    Lasting (x.mapError f) := by
  intro _ failed
  obtain ⟨e, -, rfl⟩ := mapError_eq_error.mp failed
  exact h e

/-- A check with nothing behind it. -/
theorem ite_ok {p : Prop} [Decidable p] {a : α} {e : PayoutError} (h : e.worthRetrying = false) :
    Lasting (if p then .ok a else .error e) := by
  split
  · exact ok a
  · exact error h

/-- A check that is not passed. -/
theorem ite_error {p : Prop} [Decidable p] {e : PayoutError} {x : Except PayoutError α}
    (h : e.worthRetrying = false) (hx : Lasting x) : Lasting (if p then .error e else x) := by
  split
  · exact error h
  · exact hx

end Lasting

theorem PayoutError.worthRetrying_ofFormat (e : FormatError) :
    (ofFormat e).worthRetrying = false := by
  cases e <;> rfl

/-! ## Questions to the ledger -/

/-- A question to the ledger that was answered with a cause, whatever the cause. -/
def Consultation.isUnanswered : Consultation → Bool
  | account _ (.error _) | trustLine _ _ _ (.error _) => true
  | account _ (.ok _) | trustLine _ _ _ (.ok _) | sequence .. | signature .. => false

namespace Consulting

variable {Λ Κ Ω α β : Type}

/-- Does a computation end in a cause that is worth retrying? -/
def endsTransient (x : Consulting Λ Κ Ω α) (w : World Λ Κ Ω) : Bool :=
  match x w with
  | .ok _ _ => false
  | .error e _ => e.worthRetrying

theorem endsTransient_of_ok {x : Consulting Λ Κ Ω α} {w w' : World Λ Κ Ω} {a : α}
    (h : x w = .ok a w') : x.endsTransient w = false := by
  rw [endsTransient, h]

theorem endsTransient_of_error {x : Consulting Λ Κ Ω α} {w w' : World Λ Κ Ω} {e : PayoutError}
    (h : x w = .error e w') : x.endsTransient w = e.worthRetrying := by
  rw [endsTransient, h]

theorem endsTransient_eq_true {x : Consulting Λ Κ Ω α} {w : World Λ Κ Ω} :
    x.endsTransient w = true ↔ ∃ e w', x w = .error e w' ∧ e.worthRetrying = true := by
  unfold endsTransient
  cases x w with
  | ok a v => simp
  | error e v => simp

/-- A computation that ends in a cause worth retrying exactly when the ledger has not answered one
of its questions. So it fails wherever the ledger has not answered. -/
def BlamesLedger (x : Consulting Λ Κ Ω α) : Prop :=
  ∀ w, ∃ asked, (x.leaves w).journal = asked ++ w.journal ∧
    asked.any (·.isUnanswered) = x.endsTransient w

namespace BlamesLedger

/-! ### What computations are put together from -/

theorem of_ok {x : Consulting Λ Κ Ω α} {w w' : World Λ Κ Ω} {a : α} (h : x.BlamesLedger)
    (ran : x w = .ok a w') :
    ∃ asked, w'.journal = asked ++ w.journal ∧ asked.any (·.isUnanswered) = false := by
  obtain ⟨asked, journal, blame⟩ := h w
  rw [leaves_of_ok ran] at journal
  rw [endsTransient_of_ok ran] at blame
  exact ⟨asked, journal, blame⟩

theorem of_error {x : Consulting Λ Κ Ω α} {w w' : World Λ Κ Ω} {e : PayoutError}
    (h : x.BlamesLedger) (ran : x w = .error e w') :
    ∃ asked, w'.journal = asked ++ w.journal ∧
      asked.any (·.isUnanswered) = e.worthRetrying := by
  obtain ⟨asked, journal, blame⟩ := h w
  rw [leaves_of_error ran] at journal
  rw [endsTransient_of_error ran] at blame
  exact ⟨asked, journal, blame⟩

theorem pure (a : α) : BlamesLedger (Pure.pure a : Consulting Λ Κ Ω α) :=
  fun _ => ⟨[], rfl, rfl⟩

theorem throw {e : PayoutError} (h : e.worthRetrying = false) :
    BlamesLedger (MonadExcept.throw e : Consulting Λ Κ Ω α) :=
  fun _ => ⟨[], rfl, h.symm⟩

theorem bind {x : Consulting Λ Κ Ω α} {f : α → Consulting Λ Κ Ω β} (hx : x.BlamesLedger)
    (hf : ∀ a, (f a).BlamesLedger) : (x >>= f).BlamesLedger := by
  intro w
  cases ran : x w with
  | error e v =>
    have failed : (x >>= f) w = .error e v := bind_eq_error.mpr (.inl ran)
    obtain ⟨asked, journal, blame⟩ := hx.of_error ran
    rw [leaves_of_error failed, endsTransient_of_error failed]
    exact ⟨asked, journal, blame⟩
  | ok a v =>
    obtain ⟨early, early_eq, answered⟩ := hx.of_ok ran
    have goes_on : (x >>= f) w = f a v := by
      show EStateM.bind x f w = _
      rw [EStateM.bind, ran]
    obtain ⟨late, late_eq, blame⟩ := hf a v
    refine ⟨late ++ early, ?_, ?_⟩
    · rw [leaves, goes_on]
      show ((f a).leaves v).journal = _
      rw [late_eq, early_eq, List.append_assoc]
    · rw [List.any_append, answered, Bool.or_false, blame, endsTransient, endsTransient, goes_on]

/-! ### Questions -/

/-- A question for an account, with every refusal worded as a cause worth retrying. -/
theorem account [Ledger Λ] (address : String) {f : PayoutError → PayoutError}
    (h : ∀ e, (f e).worthRetrying = true) :
    BlamesLedger (Consulting.mapError f (World.account address) :
      Consulting Λ Κ Ω (Option AccountState)) := by
  intro w
  unfold leaves endsTransient Consulting.mapError World.account
  obtain ⟨answer, ledger⟩ := Ledger.account address w.ledger
  refine ⟨[.account address answer], ?_⟩
  cases answer with
  | error e => exact ⟨rfl, (h e).symm⟩
  | ok state => exact ⟨rfl, rfl⟩

theorem trustLine [Ledger Λ] (address currency issuer : String) {f : PayoutError → PayoutError}
    (h : ∀ e, (f e).worthRetrying = true) :
    BlamesLedger (Consulting.mapError f (World.trustLine address currency issuer) :
      Consulting Λ Κ Ω (Option Quantity)) := by
  intro w
  unfold leaves endsTransient Consulting.mapError World.trustLine
  obtain ⟨answer, ledger⟩ := Ledger.trustLine address currency issuer w.ledger
  refine ⟨[.trustLine address currency issuer answer], ?_⟩
  cases answer with
  | error e => exact ⟨rfl, (h e).symm⟩
  | ok line => exact ⟨rfl, rfl⟩

theorem ledgerSequence [Ledger Λ] (address : String) :
    BlamesLedger (SwapPayout.ledgerSequence address : Consulting Λ Κ Ω UInt64) :=
  bind (account address fun _ => rfl) fun _ => pure _

/-! ### Checks and numbers -/

theorem requireReserve [Ledger Λ] (address : String) (movement : Movement) (required : UInt64) :
    BlamesLedger (SwapPayout.requireReserve address movement required :
      Consulting Λ Κ Ω Unit) := by
  refine bind (bind (account address fun _ => rfl) fun _ => pure _) fun balance => ?_
  split
  · exact pure _
  · cases movement <;> exact throw rfl

theorem requireHolding [Ledger Λ] (address currency issuer : String) (quantity : Quantity) :
    BlamesLedger (SwapPayout.requireHolding address currency issuer quantity :
      Consulting Λ Κ Ω Unit) := by
  refine bind (bind (trustLine address currency issuer fun _ => rfl) fun _ => pure _) fun held => ?_
  split
  · exact pure _
  · exact throw rfl

variable [SequenceKeeper Κ]

/-- The keeper always answers. -/
theorem allocate (address : String) (fetched : UInt64) :
    BlamesLedger (World.allocate address fetched : Consulting Λ Κ Ω UInt64) :=
  fun _ => ⟨[.sequence ..], rfl, rfl⟩

theorem nextSequence [Ledger Λ] (address : String) :
    BlamesLedger (SwapPayout.nextSequence address : Consulting Λ Κ Ω UInt64) :=
  bind (ledgerSequence address) fun fetched => bind (allocate address fetched) fun _ => pure _

theorem pin [Ledger Λ] (fee : String) (r : SwapRequest) :
    BlamesLedger (SwapPayout.pin fee r : Consulting Λ Κ Ω Pinned) := by
  unfold SwapPayout.pin
  cases r.pinned with
  | some pinned => exact pure _
  | none => exact bind (nextSequence r.sender) fun _ => pure _

end BlamesLedger

end Consulting

end SwapPayout
