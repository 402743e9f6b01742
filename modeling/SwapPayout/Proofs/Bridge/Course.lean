import SwapPayout.Proofs.Bridge.Attempt
import SwapPayout.Proofs.Sequence.Book

/-!
# One number for each swap

A bridge works on a backlog of swaps that one account pays. It builds a swap now and then another,
tries again where it did not succeed or where the payment got lost, and between two builds the
ledger may become anything. Nothing is confirmed to the keeper meanwhile.

Whatever the course of this is, each swap has one number and one fee, from the first build that
comes so far on, and no two swaps have the same: `oneNumberEach`. The argument is in one step. A
step either changes no request and leaves the keeper alone, or it pins a number for one swap that
had none (`stepped_step`); that number is beyond all before it, because the keeper's first free
number is (`Numbered`).

The keeper's numbers are words of 64 bits, and behind the last one they start again. What is said
of different swaps therefore needs words enough; a new keeper has them for the first
`2 ^ 64 - 2 ^ 32` events. What is said of one swap needs nothing.
-/

namespace SwapPayout

/-- Swaps that are to be paid out, and the world in which they are. -/
structure Backlog (ι Λ Ω : Type) where
  requests : ι → SwapRequest
  world : World Λ SequenceBook Ω

namespace Backlog

/-- What happens to a backlog. -/
inductive Event (ι Λ : Type) where
  /-- A swap is built, by what routes and registry answer at the time. -/
  | build (swap : ι) (routes : Routes) (registry : Registry)
  /-- The ledger becomes another one. -/
  | ledger (state : Λ)

section

variable {ι Λ Ω : Type}

def pinned (s : Backlog ι Λ Ω) (swap : ι) : Option Pinned := (s.requests swap).pinned

/-- The first number that is free for an account by the keeper's book. -/
def firstFree (s : Backlog ι Λ Ω) (sender : String) : Nat := s.world.keeper.firstFree sender

/-- A build of a swap, whether or not it succeeds. -/
def attempt [Ledger Λ] (b : Bridge) (s : Backlog ι Λ Ω) (swap : ι) (routes : Routes)
    (registry : Registry) : Bridge.Built Λ SequenceBook Ω :=
  { b with routes, registry }.build (s.requests swap) s.world

theorem attempt_goes [Ledger Λ] (b : Bridge) (s : Backlog ι Λ Ω) (swap : ι) (routes : Routes)
    (registry : Registry) :
    Bridge.Attempt { b with routes, registry } (s.requests swap) s.world
      (s.attempt b swap routes registry) :=
  Bridge.attempt_build { b with routes, registry } (s.requests swap) s.world

variable [DecidableEq ι]

def step [Ledger Λ] (b : Bridge) (s : Backlog ι Λ Ω) : Event ι Λ → Backlog ι Λ Ω
  | .build swap routes registry =>
    let built := s.attempt b swap routes registry
    { requests := Function.update s.requests swap built.request, world := built.world }
  | .ledger state => { s with world := { s.world with ledger := state } }

def run [Ledger Λ] (b : Bridge) (s : Backlog ι Λ Ω) (events : List (Event ι Λ)) :
    Backlog ι Λ Ω :=
  events.foldl (step b) s

/-! ## What a step comes to -/

/-- What a step comes to for the requests and the keeper. -/
inductive Stepped (b : Bridge) (s : Backlog ι Λ Ω) : Backlog ι Λ Ω → Prop where
  | same {t : Backlog ι Λ Ω} (requests : t.requests = s.requests)
      (keeper : t.world.keeper = s.world.keeper) : Stepped b s t
  /-- A swap without a number gets one, for what the ledger said. -/
  | pins {t : Backlog ι Λ Ω} {swap : ι} {fetched sequence : UInt64} (fresh : s.pinned swap = none)
      (short : fetched.toNat < 2 ^ 32)
      (given : sequence =
        if s.world.keeper.next (s.requests swap).sender fetched < fetched then fetched
        else s.world.keeper.next (s.requests swap).sender fetched)
      (requests : t.requests = Function.update s.requests swap
        { s.requests swap with pinned := some ⟨sequence, b.chain.feeText⟩ })
      (keeper : t.world.keeper =
        (s.world.keeper.allocate (s.requests swap).sender fetched).2) : Stepped b s t

theorem stepped_step [Ledger Λ] (b : Bridge) (s : Backlog ι Λ Ω) (e : Event ι Λ) :
    Stepped b s (s.step b e) := by
  cases e with
  | ledger state => exact .same rfl rfl
  | build swap routes registry =>
    have attempted := s.attempt_goes b swap routes registry
    show Stepped b s ⟨Function.update s.requests swap (s.attempt b swap routes registry).request,
      (s.attempt b swap routes registry).world⟩
    generalize s.attempt b swap routes registry = built at attempted
    cases attempted with
    | stopped unasked => exact .same (Function.update_eq_self ..) unasked.keeper
    | repeated _ _ unasked => exact .same (Function.update_eq_self ..) unasked.keeper
    | allocated _ fresh unasked next =>
      obtain ⟨state, _, _, keeper, -, allocated, rfl, rfl⟩ := nextSequence_eq_ok.mp next
      rw [unasked.keeper] at allocated
      cases allocated
      exact .pins fresh (AccountState.toNat_next_lt state) rfl rfl rfl

section

variable {b : Bridge} {s t : Backlog ι Λ Ω}

theorem Stepped.request_eq (h : Stepped b s t) (swap : ι) :
    t.requests swap = { s.requests swap with pinned := t.pinned swap } := by
  cases h with
  | same requests => rw [pinned, requests]
  | @pins built _ _ _ _ _ requests =>
    rw [pinned, requests]
    by_cases same : swap = built
    · subst same
      rw [Function.update_self]
    · rw [Function.update_of_ne same]

theorem Stepped.pinned_eq (h : Stepped b s t) {swap : ι} {p : Pinned}
    (had : s.pinned swap = some p) : t.pinned swap = some p := by
  cases h with
  | same requests => rw [pinned, requests]; exact had
  | @pins built _ _ fresh _ _ requests =>
    have other : swap ≠ built := by
      rintro rfl
      cases fresh.symm.trans had
    rw [pinned, requests, Function.update_of_ne other]
    exact had

/-! ### Numbers of different swaps -/

/-- The numbers of the swaps that one account pays: they are different, and all of them are behind
the keeper's first free number. -/
structure Numbered (sender : String) (s : Backlog ι Λ Ω) : Prop where
  sender_eq : ∀ swap, (s.requests swap).sender = sender
  taken : ∀ swap p, s.pinned swap = some p → p.sequence.toNat < s.firstFree sender
  distinct : ∀ swap other p q, swap ≠ other → s.pinned swap = some p → s.pinned other = some q →
    p.sequence ≠ q.sequence

/-- A step gives one swap a number that was free, and none before it. -/
structure Gives (sender : String) (s t : Backlog ι Λ Ω) (swap : ι) (p : Pinned) : Prop where
  now : t.pinned swap = some p
  others : ∀ other, other ≠ swap → t.pinned other = s.pinned other
  free_le : s.firstFree sender ≤ p.sequence.toNat
  free_eq : t.firstFree sender = p.sequence.toNat + 1
  low : p.sequence.toNat ≤ max (s.firstFree sender) (2 ^ 32)

/-- As long as there are words left, a step gives one number or none. -/
theorem Stepped.gives {sender : String} (h : Stepped b s t)
    (shared : ∀ swap, (s.requests swap).sender = sender)
    (room : s.firstFree sender < 2 ^ 64) :
    ((∀ swap, t.pinned swap = s.pinned swap) ∧ t.firstFree sender = s.firstFree sender) ∨
      ∃ swap p, Gives sender s t swap p := by
  cases h with
  | same requests keeper =>
    refine .inl ⟨fun swap => ?_, ?_⟩
    · rw [pinned, requests]
      rfl
    · rw [firstFree, keeper]
      rfl
  | @pins swap fetched sequence fresh short given requests keeper =>
    rw [shared swap] at given keeper
    rw [if_neg (UInt64.not_lt.mpr (SequenceBook.le_next fetched room))] at given
    have sequence_eq : sequence.toNat = max fetched.toNat (s.firstFree sender) := by
      rw [given]
      exact SequenceBook.toNat_next_of_lt fetched room
    refine .inr ⟨swap, ⟨sequence, b.chain.feeText⟩, ?now, ?others, ?free_le, ?free_eq, ?low⟩
    case now => rw [pinned, requests, Function.update_self]
    case others =>
      intro other differs
      rw [pinned, requests, Function.update_of_ne differs]
      rfl
    case free_le => exact sequence_eq ▸ Nat.le_max_right _ _
    case free_eq => rw [firstFree, keeper, SequenceBook.firstFree_allocate, given]
    case low =>
      show sequence.toNat ≤ _
      omega

/-- **A number that is given is beyond all before it**, so it is another one. -/
theorem Numbered.of_gives {sender : String} {swap : ι} {p : Pinned} (h : s.Numbered sender)
    (gives : Gives sender s t swap p) (shared : ∀ swap, (t.requests swap).sender = sender) :
    t.Numbered sender := by
  have earlier {other : ι} {q : Pinned} (differs : other ≠ swap)
      (pins : t.pinned other = some q) : q.sequence.toNat < p.sequence.toNat := by
    rw [gives.others other differs] at pins
    exact Nat.lt_of_lt_of_le (h.taken other q pins) gives.free_le
  have given {q : Pinned} (pins : t.pinned swap = some q) : q = p :=
    Option.some.inj (pins.symm.trans gives.now)
  refine ⟨shared, ?taken, ?distinct⟩
  case taken =>
    intro other q pins
    rw [gives.free_eq]
    by_cases same : other = swap
    · subst same
      rw [given pins]
      exact Nat.lt_succ_self _
    · exact Nat.lt_succ_of_lt (earlier same pins)
  case distinct =>
    intro one other q r differ pins pins'
    by_cases same : one = swap
    · subst same
      have lt := earlier differ.symm pins'
      rw [given pins]
      exact fun eq => absurd lt (eq ▸ Nat.lt_irrefl _)
    · by_cases same' : other = swap
      · subst same'
        have lt := earlier same pins
        rw [given pins']
        exact fun eq => absurd lt (eq ▸ Nat.lt_irrefl _)
      · rw [gives.others one same] at pins
        rw [gives.others other same'] at pins'
        exact h.distinct one other q r differ pins pins'

/-- What a step does to the numbers, as long as there are words left. -/
structure Numbered.Grows (sender : String) (s t : Backlog ι Λ Ω) : Prop where
  kept : t.Numbered sender
  free_le : s.firstFree sender ≤ t.firstFree sender
  free_few : t.firstFree sender ≤ max (s.firstFree sender) (2 ^ 32) + 1
  /-- A number that is new was free. -/
  free : ∀ swap p, s.pinned swap = none → t.pinned swap = some p →
    s.firstFree sender ≤ p.sequence.toNat

theorem Numbered.grows {sender : String} (h : s.Numbered sender) (stepped : Stepped b s t)
    (room : s.firstFree sender < 2 ^ 64) : Numbered.Grows sender s t := by
  have shared (swap : ι) : (t.requests swap).sender = sender := by
    rw [stepped.request_eq swap]
    exact h.sender_eq swap
  rcases stepped.gives h.sender_eq room with ⟨pinned_eq, free_eq⟩ | ⟨swap, p, gives⟩
  · refine ⟨⟨shared, ?_, ?_⟩, free_eq.ge, ?_, ?_⟩
    · intro swap p
      rw [pinned_eq, free_eq]
      exact h.taken swap p
    · intro swap other p q
      rw [pinned_eq, pinned_eq]
      exact h.distinct swap other p q
    · rw [free_eq]
      exact Nat.le_succ_of_le (Nat.le_max_left _ _)
    · intro swap p fresh pins
      cases fresh.symm.trans ((pinned_eq swap).symm.trans pins)
  · have free_eq := gives.free_eq
    refine ⟨h.of_gives gives shared, ?_, ?_, ?_⟩
    · rw [free_eq]
      exact Nat.le_succ_of_le gives.free_le
    · rw [free_eq]
      exact Nat.succ_le_succ gives.low
    · intro other q fresh pins
      by_cases same : other = swap
      · subst same
        cases gives.now.symm.trans pins
        exact gives.free_le
      · cases fresh.symm.trans ((gives.others other same).symm.trans pins)

end

/-! ## Runs -/

section

variable [Ledger Λ] {b : Bridge} {s : Backlog ι Λ Ω}

theorem run_append (s : Backlog ι Λ Ω) (before after : List (Event ι Λ)) :
    s.run b (before ++ after) = (s.run b before).run b after :=
  List.foldl_append

/-- **Nothing of a request changes but what is pinned for it.** -/
theorem request_run (b : Bridge) (s : Backlog ι Λ Ω) (events : List (Event ι Λ)) (swap : ι) :
    (s.run b events).requests swap =
      { s.requests swap with pinned := (s.run b events).pinned swap } := by
  induction events generalizing s with
  | nil => rfl
  | cons e events ih =>
    refine (ih (s.step b e)).trans ?_
    rw [(stepped_step b s e).request_eq swap]
    rfl

/-- **What is pinned stays pinned.** -/
theorem pinned_run {swap : ι} {p : Pinned} (had : s.pinned swap = some p)
    (events : List (Event ι Λ)) : (s.run b events).pinned swap = some p := by
  induction events generalizing s with
  | nil => exact had
  | cons e events ih => exact ih ((stepped_step b s e).pinned_eq had)

/-- What a build pins is pinned behind it. -/
theorem pinned_build (b : Bridge) (s : Backlog ι Λ Ω) (swap : ι) (routes : Routes)
    (registry : Registry) :
    (s.step b (.build swap routes registry)).pinned swap =
      (s.attempt b swap routes registry).request.pinned := by
  show (Function.update s.requests swap _ swap).pinned = _
  rw [Function.update_self]

/-- **A draft is of the swap's plan**, with what is pinned for the swap behind the build. -/
theorem attempt_eq_ok {swap : ι} {routes : Routes} {registry : Registry} {d : Draft}
    (h : (s.attempt b swap routes registry).result = .ok d) :
    ∃ p pinned, Bridge.Planned { b with routes, registry } (s.requests swap) p ∧
      (s.step b (.build swap routes registry)).pinned swap = some pinned ∧
      Draft.ofOrder (p.order pinned) = .ok d := by
  obtain ⟨p, pinned, v, prepared, drafted, built⟩ := Bridge.build_eq_ok.mp h
  obtain ⟨plan, -⟩ := Bridge.prepare_eq_ok.mp prepared
  refine ⟨p, pinned, (Bridge.plan_eq_ok.mp plan).2, ?_, drafted⟩
  exact (pinned_build b s swap routes registry).trans
    (congrArg (fun built => built.request.pinned) built)

/-- **A number is at least the ledger's**, as it was read for it: the last two entries of the journal
behind the build that gave the number are the ledger's answer and the keeper's. -/
theorem reached_of_build {swap : ι} {routes : Routes} {registry : Registry} {p : Pinned}
    (fresh : s.pinned swap = none)
    (pins : (s.step b (.build swap routes registry)).pinned swap = some p) :
    ∃ state given asked,
      (s.step b (.build swap routes registry)).world.journal =
        .sequence (s.requests swap).sender (AccountState.next state) given ::
          .account (s.requests swap).sender (.ok state) :: (asked ++ s.world.journal) ∧
      AccountState.next state ≤ p.sequence := by
  have attempted := s.attempt_goes b swap routes registry
  rw [pinned_build] at pins
  show ∃ state given asked, (s.attempt b swap routes registry).world.journal = _ ∧ _
  generalize s.attempt b swap routes registry = built at attempted pins
  cases attempted with
  | stopped => cases fresh.symm.trans pins
  | repeated _ had => cases fresh.symm.trans had
  | allocated _ _ unasked next =>
    obtain ⟨state, ledger, given, keeper, -, -, rfl, rfl⟩ := nextSequence_eq_ok.mp next
    obtain ⟨asked, journal, -⟩ := unasked.journal
    cases pins
    refine ⟨state, given, asked, ?_, ?_⟩
    · rw [← journal]
    · show _ ≤ if given < AccountState.next state then AccountState.next state else given
      split
      · exact UInt64.le_refl _
      · next ahead => exact UInt64.not_lt.mp ahead

/-- **The numbers stay in order over a run**, and a swap that had none at its start has a number
that was free then. -/
theorem numbered_run {sender : String} (h : s.Numbered sender) (events : List (Event ι Λ))
    (room : max (s.firstFree sender) (2 ^ 32) + events.length ≤ 2 ^ 64) :
    (s.run b events).Numbered sender ∧
      max ((s.run b events).firstFree sender) (2 ^ 32) ≤
        max (s.firstFree sender) (2 ^ 32) + events.length ∧
      ∀ swap p, s.pinned swap = none → (s.run b events).pinned swap = some p →
        s.firstFree sender ≤ p.sequence.toNat := by
  induction events generalizing s with
  | nil =>
    refine ⟨h, Nat.le_refl _, ?_⟩
    intro swap p fresh pins
    cases fresh.symm.trans pins
  | cons e events ih =>
    rw [List.length_cons] at room ⊢
    have grows : Numbered.Grows sender s (s.step b e) :=
      h.grows (stepped_step b s e) (by omega)
    have few := grows.free_few
    obtain ⟨kept, bounded, free⟩ := ih grows.kept (by omega)
    refine ⟨kept, by show max _ _ ≤ _; exact Nat.le_trans bounded (by omega), ?_⟩
    intro swap p fresh pins
    cases now : (s.step b e).pinned swap with
    | none => exact Nat.le_trans grows.free_le (free swap p now pins)
    | some q =>
      have same : q = p := Option.some.inj ((pinned_run now events).symm.trans pins)
      rw [← same]
      exact grows.free swap q fresh now

/-! ## The course of a backlog -/

/-- What holds of every course of a backlog that one account pays. -/
structure OneNumberEach (b : Bridge) (sender : String) (s : Backlog ι Λ Ω) : Prop where
  /-- Nothing of a request changes but what is pinned for it. -/
  frame : ∀ events swap, (s.run b events).requests swap =
    { s.requests swap with pinned := (s.run b events).pinned swap }
  /-- What is pinned stays pinned. -/
  kept : ∀ before after swap p, (s.run b before).pinned swap = some p →
    (s.run b (before ++ after)).pinned swap = some p
  /-- The keeper is not asked again for a swap that has its number. -/
  unasked : ∀ events swap p routes registry, (s.run b events).pinned swap = some p →
    World.KeeperUnasked (s.run b events).world
      ((s.run b events).attempt b swap routes registry).world
  /-- Every draft of a swap has the number and the fee that are pinned for it in the end. -/
  paid : ∀ before after swap routes registry d,
    ((s.run b before).attempt b swap routes registry).result = .ok d →
    ∃ p, (s.run b (before ++ .build swap routes registry :: after)).pinned swap = some p ∧
      d.payment.sequence.toUInt64 = p.sequence ∧ Drops.parse p.fee = .ok d.payment.fee
  /-- Where routes and registry answer alike, two drafts of a swap are the same. -/
  repeated : ∀ before between swap routes routes' registry registry' d d',
    b.SameAnswers (s.requests swap) routes routes' registry registry' →
    ((s.run b before).attempt b swap routes registry).result = .ok d →
    ((s.run b (before ++ .build swap routes registry :: between)).attempt b swap
      routes' registry').result = .ok d' → d = d'
  /-- A number is at least the ledger's, as it was read for it. -/
  reached : ∀ before swap routes registry p, (s.run b before).pinned swap = none →
    (s.run b (before ++ [.build swap routes registry])).pinned swap = some p →
    ∃ state given asked,
      (s.run b (before ++ [.build swap routes registry])).world.journal =
        .sequence sender (AccountState.next state) given :: .account sender (.ok state) ::
          (asked ++ (s.run b before).world.journal) ∧
      AccountState.next state ≤ p.sequence
  /-- A number is greater than all that were pinned when it was not. -/
  growing : ∀ before after swap other p q,
    max (s.firstFree sender) (2 ^ 32) + (before ++ after).length ≤ 2 ^ 64 →
    (s.run b before).pinned swap = some p → (s.run b before).pinned other = none →
    (s.run b (before ++ after)).pinned other = some q → p.sequence < q.sequence
  /-- Different swaps have different numbers. -/
  distinct : ∀ events swap other p q,
    max (s.firstFree sender) (2 ^ 32) + events.length ≤ 2 ^ 64 → swap ≠ other →
    (s.run b events).pinned swap = some p → (s.run b events).pinned other = some q →
    p.sequence ≠ q.sequence

/-- Two drafts of a swap are of the same plan, where routes and registry answer alike. -/
theorem draft_unique {swap : ι} {routes routes' : Routes} {registry registry' : Registry}
    {d d' : Draft} (between : List (Event ι Λ))
    (same : b.SameAnswers (s.requests swap) routes routes' registry registry')
    (built : (s.attempt b swap routes registry).result = .ok d)
    (rebuilt : (((s.step b (.build swap routes registry)).run b between).attempt b swap
      routes' registry').result = .ok d') : d = d' := by
  obtain ⟨p, pinned, planned, pins, drafted⟩ := attempt_eq_ok built
  obtain ⟨q, pinned', planned', pins', drafted'⟩ := attempt_eq_ok rebuilt
  -- The second build takes what the first one pinned.
  have had := pinned_run (b := b) pins between
  have kept := (stepped_step b _ (.build swap routes' registry')).pinned_eq had
  obtain rfl : pinned = pinned' := Option.some.inj (kept.symm.trans pins')
  have request := request_run b s (.build swap routes registry :: between) swap
  have replanned : Bridge.Planned { b with routes := routes', registry := registry' }
      (s.requests swap) q := by
    rw [show ((s.step b (.build swap routes registry)).run b between).requests swap = _ from
      request] at planned'
    exact planned'.repin (s.requests swap).pinned
  obtain rfl : p = q := planned.unique same replanned
  exact Except.ok.inj (drafted.symm.trans drafted')

/-- **Each swap has one number, and no two have the same**, over every course of a backlog that
starts with nothing pinned. -/
theorem oneNumberEach {sender : String} (fresh : ∀ swap, s.pinned swap = none)
    (shared : ∀ swap, (s.requests swap).sender = sender) : OneNumberEach b sender s := by
  have numbered : s.Numbered sender := by
    refine ⟨shared, ?_, ?_⟩
    · intro swap p pins
      cases (fresh swap).symm.trans pins
    · intro swap other p q _ pins
      cases (fresh swap).symm.trans pins
  have same_sender (events : List (Event ι Λ)) (swap : ι) :
      ((s.run b events).requests swap).sender = sender := by
    rw [request_run b s events swap]
    exact shared swap
  refine ⟨request_run b s, ?kept, ?unasked, ?paid, ?repeated, ?reached, ?growing, ?distinct⟩
  case kept =>
    intro before after swap p pins
    rw [run_append]
    exact pinned_run pins after
  case unasked =>
    intro events swap p routes registry pins
    exact ((attempt_goes b _ swap routes registry).of_pinned pins).2
  case paid =>
    intro before after swap routes registry d built
    obtain ⟨p, pinned, -, pins, drafted⟩ := attempt_eq_ok built
    obtain ⟨_, fee, -, drops, small, payment⟩ := (Bridge.Plan.pays_of_ofOrder drafted).payment
    refine ⟨pinned, ?_, ?_, ?_⟩
    · rw [run_append]
      exact pinned_run pins after
    · rw [payment]
      refine UInt64.toNat_inj.mp ?_
      rw [UInt32.toNat_toUInt64, UInt64.toNat_toUInt32, Nat.mod_eq_of_lt small]
    · rw [payment]
      exact drops
  case repeated =>
    intro before between swap routes routes' registry registry' d d' same built rebuilt
    rw [run_append] at rebuilt
    refine draft_unique between ?_ built rebuilt
    rw [request_run b s before swap]
    exact same.repin _
  case reached =>
    intro before swap routes registry p unpinned pins
    rw [run_append] at pins ⊢
    rw [← same_sender before swap]
    exact reached_of_build unpinned pins
  case growing =>
    intro before after swap other p q room pins unpinned pins'
    rw [List.length_append] at room
    rw [run_append] at pins'
    obtain ⟨ordered, few, -⟩ := numbered_run (b := b) numbered before (by omega)
    obtain ⟨-, -, free⟩ := numbered_run (b := b) ordered after (by omega)
    have taken := ordered.taken swap p pins
    exact UInt64.lt_iff_toNat_lt.mpr (Nat.lt_of_lt_of_le taken (free other q unpinned pins'))
  case distinct =>
    intro events swap other p q room differ pins pins'
    exact (numbered_run numbered events room).1.distinct swap other p q differ pins pins'

end

end

/-! ## A rehearsal -/

open Bridge (rehearsal rehearsed rehearsalWorld rehearsalLedger)

/-- Two swaps of the rehearsal, one of drops and one of dollars. -/
def rehearsedPair : Backlog Bool InMemory.LedgerState Unit where
  requests drops := rehearsed (if drops then "A" else "B")
  world := rehearsalWorld

/-- The drops are paid, the ledger falls back, the dollars are paid, and the drops again. -/
def rehearsedEvents : List (Event Bool InMemory.LedgerState) :=
  [.build true rehearsal.routes rehearsal.registry,
    .ledger (rehearsalLedger.fund "rK8ZsqAcfkNoFzJQhApwb8Do4GhJ1nFxiy" 30100000 3),
    .build false rehearsal.routes rehearsal.registry,
    .build true rehearsal.routes rehearsal.registry]

theorem rehearsedPair_numbered :
    ∃ d p q,
      (rehearsedPair.attempt rehearsal true rehearsal.routes rehearsal.registry).result = .ok d ∧
      (rehearsedPair.run rehearsal rehearsedEvents).pinned true = some p ∧
      (rehearsedPair.run rehearsal rehearsedEvents).pinned false = some q ∧
      d.payment.sequence.toUInt64 = p.sequence ∧ p.sequence < q.sequence := by
  have each : OneNumberEach rehearsal "rK8ZsqAcfkNoFzJQhApwb8Do4GhJ1nFxiy" rehearsedPair :=
    oneNumberEach (fun _ => rfl) fun _ => rfl
  obtain ⟨d, built⟩ : ∃ d,
      (rehearsedPair.attempt rehearsal true rehearsal.routes rehearsal.registry).result = .ok d :=
    exists_eq_ok (by decide +kernel)
  obtain ⟨q, dollars⟩ : ∃ q, (rehearsedPair.run rehearsal rehearsedEvents).pinned false = some q :=
    Option.isSome_iff_exists.mp (by decide +kernel)
  obtain ⟨first, pinned⟩ : ∃ p, (rehearsedPair.run rehearsal
      [.build true rehearsal.routes rehearsal.registry]).pinned true = some p :=
    Option.isSome_iff_exists.mp (by decide +kernel)
  obtain ⟨p, drops, same, -⟩ := each.paid [] rehearsedEvents.tail true _ _ d built
  have kept := each.kept [.build true rehearsal.routes rehearsal.registry] rehearsedEvents.tail
    true first pinned
  obtain rfl : first = p := Option.some.inj (kept.symm.trans drops)
  have later := each.growing [.build true rehearsal.routes rehearsal.registry]
    rehearsedEvents.tail true false first q (by decide +kernel) pinned (by decide +kernel) dollars
  exact ⟨d, first, q, built, drops, dollars, same, later⟩

end Backlog

end SwapPayout
