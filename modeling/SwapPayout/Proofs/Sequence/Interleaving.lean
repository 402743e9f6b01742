import Mathlib.Logic.Relation
import SwapPayout.Proofs.Sequence.Book

/-!
# Requests for numbers that overlap

A request for a number takes two steps: it reads the account's number on the ledger, and later it
hands that number to the book. Between the two anything may happen: other requests take either of
their steps, the ledger moves on, and numbers it has passed are confirmed to the book.

Confirming is where care is needed. The book forgets what is confirmed, so a request that still
carries a number from before is given that number once more: `given_twice`. Where nothing is
confirmed as long as a request carries a number that is not beyond it, every number that is handed
out is beyond all before it, whatever the order of the steps: `increasing_of_settled`.

The ledger's numbers have 32 bits and the book's have 64. Until the latter run out, at least
`2 ^ 64 - 2 ^ 32` numbers are handed out.
-/

namespace SwapPayout.Interleaving

/-- The requests for one account's numbers, with the ledger and the book that they ask. -/
structure State where
  /-- The account's number on the ledger. -/
  ledger : UInt32
  book : SequenceBook := {}
  /-- What requests have read and not yet handed to the book. -/
  carried : List UInt64 := []
  /-- The numbers that were handed out, last first. -/
  given : List UInt64 := []

/-- When a number may be confirmed. -/
abbrev Rule := State → UInt64 → Prop

/-- A number may be confirmed once the ledger is beyond it. -/
def passed : Rule := fun s sequence => sequence < s.ledger.toUInt64

/-- A number may be confirmed once the ledger, and every request under way, is beyond it. -/
def settled : Rule := fun s sequence =>
  sequence < s.ledger.toUInt64 ∧ ∀ fetched ∈ s.carried, sequence < fetched

/-- The book's answer to a request that carries a number. -/
def State.allocate (s : State) (account : String) (fetched : UInt64) : State :=
  { s with
    book := (s.book.allocate account fetched).2
    carried := s.carried.erase fetched
    given := (s.book.allocate account fetched).1 :: s.given }

/-- The steps of the requests, the ledger and whoever confirms, in any order. -/
inductive Step (account : String) (rule : Rule) : State → State → Prop where
  | read {s : State} : Step account rule s { s with carried := s.ledger.toUInt64 :: s.carried }
  | allocate {s : State} {fetched : UInt64} (carried : fetched ∈ s.carried) :
      Step account rule s (s.allocate account fetched)
  /-- The ledger moves on, past numbers that were handed out. -/
  | advance {s : State} {sequence : UInt32} (grows : s.ledger < sequence)
      (used : ∀ n : UInt32, s.ledger ≤ n → n < sequence → n.toUInt64 ∈ s.given) :
      Step account rule s { s with ledger := sequence }
  | confirm {s : State} {sequence : UInt64} (allowed : rule s sequence) :
      Step account rule s { s with book := s.book.confirm account sequence }

/-- The states that the steps lead to from a new book. -/
def Reachable (account : String) (rule : Rule) (ledger : UInt32) : State → Prop :=
  Relation.ReflTransGen (Step account rule) { ledger }

/-! ## What is confirmed too early is given twice -/

/-- A ledger that moves from five to six passes five alone. -/
theorem eq_five {n : UInt32} (least : 5 ≤ n) (most : n < 6) : n = 5 := by
  have low : 5 ≤ n.toNat := UInt32.le_iff_toNat_le.mp least
  have high : n.toNat < 6 := UInt32.lt_iff_toNat_lt.mp most
  refine UInt32.toNat_inj.mp ?_
  show n.toNat = 5
  omega

/-- **A number can be handed out twice**: of two requests that read the number five one is given it,
the ledger moves past it, five is confirmed, and the other one is given five as well. -/
theorem given_twice : ∃ s, Reachable "rA" passed 5 s ∧ ¬ s.given.Nodup := by
  let read₁ : State := { ledger := 5, carried := [5] }
  let read₂ : State := { ledger := 5, carried := [5, 5] }
  let given₁ : State := read₂.allocate "rA" 5
  let moved : State := { given₁ with ledger := 6 }
  let confirmed : State := { moved with book := moved.book.confirm "rA" 5 }
  have reading₁ : Step "rA" passed { ledger := 5 } read₁ := .read
  have reading₂ : Step "rA" passed read₁ read₂ := .read
  have first : Step "rA" passed read₂ given₁ := .allocate (by decide)
  have moving : Step "rA" passed given₁ moved := by
    refine .advance (by decide +kernel) ?_
    intro n least most
    obtain rfl := eq_five least most
    decide +kernel
  have confirming : Step "rA" passed moved confirmed :=
    .confirm (show (5 : UInt64) < 6 by decide)
  have second : Step "rA" passed confirmed (confirmed.allocate "rA" 5) :=
    .allocate (by decide +kernel)
  refine ⟨_, .tail (.tail (.tail (.tail (.tail (.tail .refl reading₁) reading₂) first) moving)
    confirming) second, ?_⟩
  decide +kernel

/-! ## What is confirmed when all are beyond it -/

/-- Every number that was handed out is still remembered by the book, or the ledger and all requests
under way are beyond it; and the numbers handed out grow. -/
structure Ordered (account : String) (s : State) : Prop where
  behind : ∀ n ∈ s.given, n.toNat < s.book.firstFree account ∨ settled s n
  growing : s.given.Pairwise (· > ·)
  short : ∀ fetched ∈ s.carried, fetched.toNat < 2 ^ 32
  few : s.book.firstFree account ≤ 2 ^ 32 + s.given.length

theorem ordered_start (account : String) (ledger : UInt32) : Ordered account { ledger } where
  behind := nofun
  growing := .nil
  short := nofun
  few := Nat.zero_le _

/-- No step takes back a number. -/
theorem length_given_le {account : String} {rule : Rule} {s t : State}
    (step : Step account rule s t) : s.given.length ≤ t.given.length := by
  cases step with
  | allocate => exact Nat.le_succ _
  | read | advance | confirm => exact Nat.le_refl _

/-- The number that is handed out next is beyond all before it. -/
theorem ordered_allocate {account : String} {s : State} {fetched : UInt64}
    (h : Ordered account s) (carried : fetched ∈ s.carried)
    (room : s.given.length + 2 ^ 32 < 2 ^ 64) : Ordered account (s.allocate account fetched) := by
  have free : s.book.firstFree account < 2 ^ 64 := by
    have := h.few
    omega
  have given_eq : (s.book.next account fetched).toNat =
      max fetched.toNat (s.book.firstFree account) :=
    SequenceBook.toNat_next_of_lt fetched free
  have free_eq : (s.allocate account fetched).book.firstFree account =
      max fetched.toNat (s.book.firstFree account) + 1 := by
    rw [← given_eq]
    exact SequenceBook.firstFree_allocate s.book account fetched
  have beyond : ∀ n ∈ s.given, n < s.book.next account fetched := by
    intro n hn
    rw [UInt64.lt_iff_toNat_lt, given_eq]
    rcases h.behind n hn with remembered | ⟨-, ahead⟩
    · exact Nat.lt_of_lt_of_le remembered (Nat.le_max_right _ _)
    · exact Nat.lt_of_lt_of_le (UInt64.lt_iff_toNat_lt.mp (ahead fetched carried))
        (Nat.le_max_left _ _)
  refine ⟨?behind, List.pairwise_cons.mpr ⟨beyond, h.growing⟩, ?short, ?few⟩
  case behind =>
    intro n hn
    left
    rw [free_eq, ← given_eq]
    rcases List.mem_cons.mp hn with rfl | before
    · exact Nat.lt_succ_self _
    · exact Nat.lt_succ_of_lt (UInt64.lt_iff_toNat_lt.mp (beyond n before))
  case short =>
    intro other hother
    exact h.short other (List.mem_of_mem_erase hother)
  case few =>
    have short := h.short fetched carried
    have few := h.few
    show _ ≤ 2 ^ 32 + (s.given.length + 1)
    rw [free_eq]
    omega

/-- **Every step keeps the order**, as long as words are left to hand out. -/
theorem ordered_step {account : String} {s t : State} (h : Ordered account s)
    (step : Step account settled s t) (room : t.given.length + 2 ^ 32 ≤ 2 ^ 64) :
    Ordered account t := by
  cases step with
  | read =>
    refine ⟨?_, h.growing, ?_, h.few⟩
    · intro n hn
      refine (h.behind n hn).imp_right fun beyond => ⟨beyond.1, ?_⟩
      intro fetched hfetched
      rcases List.mem_cons.mp hfetched with rfl | before
      · exact beyond.1
      · exact beyond.2 fetched before
    · intro fetched hfetched
      rcases List.mem_cons.mp hfetched with rfl | before
      · rw [UInt32.toNat_toUInt64]
        exact s.ledger.toNat_lt
      · exact h.short fetched before
  | allocate carried =>
    have more : s.given.length + 1 + 2 ^ 32 ≤ 2 ^ 64 := room
    exact ordered_allocate h carried (by omega)
  | advance grows used =>
    refine ⟨?_, h.growing, h.short, h.few⟩
    intro n hn
    refine (h.behind n hn).imp_right fun beyond => ⟨?_, beyond.2⟩
    refine UInt64.lt_trans beyond.1 (UInt64.lt_iff_toNat_lt.mpr ?_)
    rw [UInt32.toNat_toUInt64, UInt32.toNat_toUInt64]
    exact UInt32.lt_iff_toNat_lt.mp grows
  | @confirm sequence allowed =>
    -- What the confirmation makes the book forget is at most the confirmed number.
    refine ⟨?_, h.growing, h.short, ?_⟩
    · intro n hn
      show n.toNat < (s.book.confirm account sequence).firstFree account ∨ settled s n
      rw [SequenceBook.firstFree_confirm]
      rcases h.behind n hn with remembered | beyond
      · split
        · next forgotten =>
          have le : n ≤ sequence := UInt64.le_iff_toNat_le.mpr (by omega)
          exact .inr ⟨UInt64.lt_of_le_of_lt le allowed.1,
            fun fetched hfetched => UInt64.lt_of_le_of_lt le (allowed.2 fetched hfetched)⟩
        · exact .inl remembered
      · exact .inr beyond
    · show (s.book.confirm account sequence).firstFree account ≤ _
      have few := h.few
      rw [SequenceBook.firstFree_confirm]
      split
      · exact Nat.zero_le _
      · exact few

theorem ordered_of_reachable {account : String} {ledger : UInt32} {s : State}
    (reached : Reachable account settled ledger s)
    (room : s.given.length + 2 ^ 32 ≤ 2 ^ 64) : Ordered account s := by
  induction reached with
  | refl => exact ordered_start account ledger
  | tail _ step ih =>
    have fewer := length_given_le step
    exact ordered_step (ih (by omega)) step room

/-- **No number is handed out twice** where nothing is confirmed that a request under way is not
beyond: in every order of the steps each number is greater than all that were handed out before. -/
theorem increasing_of_settled {account : String} {ledger : UInt32} {s : State}
    (reached : Reachable account settled ledger s)
    (room : s.given.length + 2 ^ 32 ≤ 2 ^ 64) :
    s.given.Pairwise (· > ·) ∧ s.given.Nodup := by
  have growing := (ordered_of_reachable reached room).growing
  exact ⟨growing, growing.imp fun greater => (UInt64.ne_of_lt greater).symm⟩

/-- Two requests that overlap, the first of them confirmed when the second has its number. -/
theorem increasing_for_two :
    ∃ s, Reachable "rA" settled 5 s ∧ s.given = [6, 5] ∧ s.book.last? "rA" = some 6 ∧
      s.given.Nodup := by
  let read₁ : State := { ledger := 5, carried := [5] }
  let read₂ : State := { ledger := 5, carried := [5, 5] }
  let given₁ : State := read₂.allocate "rA" 5
  let given₂ : State := given₁.allocate "rA" 5
  let moved : State := { given₂ with ledger := 6 }
  have reading₁ : Step "rA" settled { ledger := 5 } read₁ := .read
  have reading₂ : Step "rA" settled read₁ read₂ := .read
  have first : Step "rA" settled read₂ given₁ := .allocate (by decide)
  have second : Step "rA" settled given₁ given₂ := .allocate (by decide +kernel)
  have moving : Step "rA" settled given₂ moved := by
    refine .advance (by decide +kernel) ?_
    intro n least most
    obtain rfl := eq_five least most
    decide +kernel
  have idle : moved.carried = [] := by decide +kernel
  have confirming : Step "rA" settled moved { moved with book := moved.book.confirm "rA" 5 } :=
    .confirm ⟨show (5 : UInt64) < 6 by decide, by rw [idle]; nofun⟩
  have reached : Reachable "rA" settled 5 { moved with book := moved.book.confirm "rA" 5 } :=
    .tail (.tail (.tail (.tail (.tail (.tail .refl reading₁) reading₂) first) second) moving)
      confirming
  exact ⟨_, reached, by decide +kernel, by decide +kernel,
    (increasing_of_settled reached (by decide +kernel)).2⟩

end SwapPayout.Interleaving
