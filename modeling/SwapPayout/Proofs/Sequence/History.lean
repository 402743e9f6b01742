import SwapPayout.Proofs.Sequence.Book

/-!
# What became of the numbers that were given

The book keeps one entry an account and forgets it when it is confirmed, so what it answers is not
what it has answered before. This module writes down all calls of a new book with their answers, the
last one first, and says what the book's entry means in terms of that history: the entry is the last
number given, as long as nothing at or above it has been confirmed since (`last?_eq_some_iff`).

The history is enough to say when numbers grow. A confirmed number is forgotten, so nothing in the
book keeps a later answer beyond it; whoever asks must have read a number beyond it from the ledger
(`Call.Heeds`). Where all calls heed this, and the last word is not given, all of an account's
numbers grow, and a number is beyond the ledger's exactly while another one is outstanding at or
above that: `orderly_of_heeded`.

An account is known by its name in lower case. What is called for other accounts plays no part
(`history_filter`, `last?_filter`), and that needs no condition.
-/

namespace SwapPayout.SequenceBook

/-! ## Calls and their history -/

/-- A call of the book. -/
inductive Call where
  | allocate (address : String) (fetched : UInt64)
  | confirm (address : String) (sequence : UInt64)

/-- A call that was made, with the number that it gave. -/
inductive Entry where
  | given (address : String) (fetched sequence : UInt64)
  | confirmed (address : String) (sequence : UInt64)

namespace Call

def address : Call → String
  | allocate address _ | confirm address _ => address

/-- Is this a call for an account? -/
def isFor (account : String) (c : Call) : Bool := key c.address == key account

/-- What a call leaves in the history and of the book. -/
def run (book : SequenceBook) : Call → Entry × SequenceBook
  | allocate address fetched =>
    let (sequence, book) := book.allocate address fetched
    (.given address fetched sequence, book)
  | confirm address sequence => (.confirmed address sequence, book.confirm address sequence)

/-- A later call asks beyond what an earlier one has confirmed for its account. -/
def Heeds : (later earlier : Call) → Prop
  | allocate address fetched, confirm account sequence =>
    key address = key account → sequence < fetched
  | allocate .., allocate .. | confirm .., _ => True

instance : DecidableRel Heeds
  | allocate address fetched, confirm account sequence =>
    inferInstanceAs (Decidable (key address = key account → sequence < fetched))
  | allocate .., allocate .. | confirm .., _ => .isTrue trivial

theorem run_allocate (book : SequenceBook) (address : String) (fetched : UInt64) :
    (allocate address fetched).run book =
      (.given address fetched (book.next address fetched), (book.allocate address fetched).2) :=
  rfl

theorem run_confirm (book : SequenceBook) (address : String) (sequence : UInt64) :
    (confirm address sequence).run book =
      (.confirmed address sequence, book.confirm address sequence) :=
  rfl

end Call

namespace Entry

def address : Entry → String
  | given address .. | confirmed address _ => address

/-- The number that an entry gives or confirms. -/
def sequence : Entry → UInt64
  | given _ _ sequence | confirmed _ sequence => sequence

/-- Is this an entry for an account? -/
def isFor (account : String) (e : Entry) : Bool := key e.address == key account

/-- The number that an entry gives to an account. -/
def number? (account : String) : Entry → Option UInt64
  | given address _ sequence => if key address = key account then some sequence else none
  | confirmed .. => none

/-- An entry confirms a number of an account: this one, or one above it. -/
def Confirms (account : String) (n : UInt64) : Entry → Prop
  | given .. => False
  | confirmed address sequence => key address = key account ∧ n ≤ sequence

theorem number?_given (account address : String) (fetched sequence : UInt64) :
    (given address fetched sequence).number? account =
      if key address = key account then some sequence else none :=
  rfl

theorem number?_confirmed (account address : String) (sequence : UInt64) :
    (confirmed address sequence).number? account = none :=
  rfl

theorem sequence_of_number? {account : String} {n : UInt64} {e : Entry}
    (h : e.number? account = some n) : e.sequence = n := by
  cases e with
  | given => exact Option.some.inj (Option.ite_none_right_eq_some.mp h).2
  | confirmed => cases h

theorem not_confirms_given (account address : String) (n fetched sequence : UInt64) :
    ¬ (given address fetched sequence).Confirms account n :=
  id

theorem not_confirms_confirmed {account address : String} {n sequence : UInt64} :
    ¬ (confirmed address sequence).Confirms account n ↔
      (key address = key account → sequence < n) :=
  not_and.trans (forall_congr' fun _ => UInt64.not_le)

end Entry

/-- A new book behind some calls, the last one first. -/
def after : List Call → SequenceBook
  | [] => {}
  | c :: earlier => (c.run (after earlier)).2

/-- The history of a new book behind some calls, both with the last one first. -/
def history : List Call → List Entry
  | [] => []
  | c :: earlier => (c.run (after earlier)).1 :: history earlier

/-- All numbers that were given to an account, the last one first. -/
def numbers (account : String) (entries : List Entry) : List UInt64 :=
  entries.filterMap (·.number? account)

/-! ## Since -/

/-- Something has started in the history, and all entries behind it keep it up. -/
def Since (starts keeps : Entry → Prop) (entries : List Entry) : Prop :=
  ∃ later e earlier, entries = later ++ e :: earlier ∧ starts e ∧ ∀ d ∈ later, keeps d

theorem not_since_nil (starts keeps : Entry → Prop) : ¬ Since starts keeps [] := by
  rintro ⟨later, e, earlier, split, -⟩
  simp at split

/-- What has started starts now, or it started before and is kept up now. -/
theorem since_cons {starts keeps : Entry → Prop} {e : Entry} {entries : List Entry} :
    Since starts keeps (e :: entries) ↔ starts e ∨ keeps e ∧ Since starts keeps entries := by
  constructor
  · rintro ⟨later, d, earlier, split, started, kept⟩
    cases later with
    | nil =>
      obtain ⟨rfl, -⟩ := List.cons.inj split
      exact .inl started
    | cons first later =>
      obtain ⟨rfl, rfl⟩ := List.cons.inj split
      obtain ⟨now, before⟩ := List.forall_mem_cons.mp kept
      exact .inr ⟨now, later, d, earlier, rfl, started, before⟩
  · rintro (started | ⟨now, later, d, earlier, rfl, started, before⟩)
    · exact ⟨[], e, entries, rfl, started, nofun⟩
    · exact ⟨e :: later, d, earlier, rfl, started, List.forall_mem_cons.mpr ⟨now, before⟩⟩

/-- A number was given to an account and has not been confirmed since. -/
def Outstanding (account : String) (n : UInt64) : List Entry → Prop :=
  Since (fun e => e.number? account = some n) fun e => ¬ e.Confirms account n

/-- A number is outstanding, and no other one was given to the account since. -/
def LastOutstanding (account : String) (n : UInt64) : List Entry → Prop :=
  Since (fun e => e.number? account = some n) fun e =>
    ¬ e.Confirms account n ∧ e.number? account = none

theorem outstanding_cons {account : String} {n : UInt64} {e : Entry} {entries : List Entry} :
    Outstanding account n (e :: entries) ↔
      e.number? account = some n ∨ ¬ e.Confirms account n ∧ Outstanding account n entries :=
  since_cons

theorem lastOutstanding_cons {account : String} {n : UInt64} {e : Entry} {entries : List Entry} :
    LastOutstanding account n (e :: entries) ↔
      e.number? account = some n ∨
        (¬ e.Confirms account n ∧ e.number? account = none) ∧ LastOutstanding account n entries :=
  since_cons

/-! ## What the entry means -/

/-- A confirmation forgets what is at or below it, of its own account. -/
theorem last?_confirm (book : SequenceBook) (address account : String) (sequence n : UInt64) :
    (book.confirm address sequence).last? account = some n ↔
      book.last? account = some n ∧ (key address = key account → sequence < n) := by
  by_cases same : key account = key address
  · have entry (b : SequenceBook) : b.last? account = b.last? address := by
      unfold last?
      rw [same]
    simp only [entry, same, forall_const]
    unfold confirm
    cases found : book.last? address with
    | none => simp only [found, reduceCtorEq, false_and]
    | some last =>
      by_cases reached : last ≤ sequence
      · simp only [if_pos reached, last?_erase, if_true, reduceCtorEq, Option.some.injEq, false_iff]
        rintro ⟨rfl, beyond⟩
        exact UInt64.not_le.mpr beyond reached
      · simp only [if_neg reached, found, Option.some.injEq, iff_self_and]
        rintro rfl
        exact UInt64.not_le.mp reached
  · have other : key address ≠ key account := fun eq => same eq.symm
    have kept : (book.confirm address sequence).last? account = book.last? account := by
      unfold confirm
      cases book.last? address with
      | none => rfl
      | some last =>
        by_cases reached : last ≤ sequence
        · simp only [if_pos reached, last?_erase, if_neg same]
        · simp only [if_neg reached]
    simp only [kept, other, false_implies, and_true]

/-- **The book's entry is the last number given** that nothing since has confirmed. -/
theorem last?_eq_some_iff (calls : List Call) (account : String) (n : UInt64) :
    (after calls).last? account = some n ↔ LastOutstanding account n (history calls) := by
  induction calls with
  | nil => exact ⟨nofun, fun h => absurd h (not_since_nil _ _)⟩
  | cons c earlier ih =>
    refine Iff.trans ?_ lastOutstanding_cons.symm
    cases c with
    | allocate address fetched =>
      rw [after, Call.run_allocate, allocate, last?_insert]
      by_cases same : key address = key account
      · simp only [same, if_pos, Entry.number?_given, Option.some.injEq, reduceCtorEq, and_false,
          false_and, or_false]
      · have other : key account ≠ key address := fun eq => same eq.symm
        simpa only [Entry.number?_given, if_neg same, if_neg other, reduceCtorEq, false_or,
          Entry.not_confirms_given, not_false_eq_true, and_self, true_and] using ih
    | confirm address sequence =>
      rw [after, Call.run_confirm, last?_confirm, ih]
      simp only [Entry.number?_confirmed, reduceCtorEq, false_or, Entry.not_confirms_confirmed,
        and_true]
      exact and_comm

/-! ## Spellings of an account -/

section

variable {book other : SequenceBook} {address account : String}

theorem last?_congr (same : key address = key account) : book.last? address = book.last? account :=
  congrArg (List.lookup · book.entries) same

theorem firstFree_congr (same : key address = key account) :
    book.firstFree address = book.firstFree account := by
  rw [firstFree, firstFree, last?_congr same]

/-- The next number of an account is decided by the account's own entry. -/
theorem next_congr (fetched : UInt64) (same : key address = key account)
    (entry : book.last? account = other.last? account) :
    book.next address fetched = other.next address fetched := by
  rw [next, next, last?_congr same, last?_congr same, entry]

/-- The first free number is the one beyond the entry. -/
theorem firstFree_of_last? {n : UInt64} (last : book.last? account = some n) :
    book.firstFree account = n.toNat + 1 := by
  rw [firstFree, last]
  rfl

end

/-! ## Numbers grow -/

theorem mem_numbers_cons {account : String} {n : UInt64} {e : Entry} {entries : List Entry}
    (h : n ∈ numbers account entries) : n ∈ numbers account (e :: entries) := by
  rw [numbers, List.filterMap_cons]
  split
  · exact h
  · exact List.mem_cons_of_mem _ h

theorem mem_numbers_of_last? {calls : List Call} {account : String} {n : UInt64}
    (last : (after calls).last? account = some n) : n ∈ numbers account (history calls) := by
  obtain ⟨later, e, earlier, split, given, -⟩ := (last?_eq_some_iff calls account n).mp last
  refine List.mem_filterMap.mpr ⟨e, ?_, given⟩
  rw [split]
  exact List.mem_append_right _ (List.mem_cons_self ..)

/-- As long as the last word is not given, a number is left. -/
theorem firstFree_after_lt {calls : List Call} {account : String}
    (room : ∀ n ∈ numbers account (history calls), n.toNat < 2 ^ 64 - 1) :
    (after calls).firstFree account < 2 ^ 64 := by
  cases last : (after calls).last? account with
  | none =>
    rw [firstFree, last]
    decide
  | some n =>
    have := room n (mem_numbers_of_last? last)
    rw [firstFree_of_last? last]
    omega

/-- What is outstanding is not above the book's entry. -/
theorem exists_last?_of_outstanding {calls : List Call} {account : String} {n : UInt64}
    (room : ∀ n ∈ numbers account (history calls), n.toNat < 2 ^ 64 - 1)
    (h : Outstanding account n (history calls)) :
    ∃ last, (after calls).last? account = some last ∧ n ≤ last := by
  induction calls with
  | nil => exact absurd h (not_since_nil _ _)
  | cons c earlier ih =>
    have room_before : ∀ n ∈ numbers account (history earlier), n.toNat < 2 ^ 64 - 1 :=
      fun m given => room m (mem_numbers_cons given)
    have before := ih room_before
    cases c with
    | allocate address fetched =>
      rw [history, Call.run_allocate, outstanding_cons, Entry.number?_given] at h
      rw [after, Call.run_allocate, allocate]
      simp only [last?_insert]
      by_cases same : key address = key account
      · refine ⟨_, if_pos same.symm, ?_⟩
        rcases h with now | ⟨-, earlier_given⟩
        · rw [if_pos same, Option.some.injEq] at now
          exact UInt64.le_of_eq now.symm
        · obtain ⟨last, entry, le⟩ := before earlier_given
          have free := firstFree_of_last? entry
          have number : ((after earlier).next address fetched).toNat = _ :=
            toNat_next_of_lt fetched (firstFree_congr same ▸ firstFree_after_lt room_before)
          rw [firstFree_congr same, free] at number
          rw [UInt64.le_iff_toNat_le] at le ⊢
          omega
      · simp only [if_neg same, reduceCtorEq, false_or] at h
        obtain ⟨-, earlier_given⟩ := h
        rw [if_neg fun eq => same eq.symm]
        exact before earlier_given
    | confirm address sequence =>
      simp only [history, Call.run_confirm, outstanding_cons, Entry.number?_confirmed, reduceCtorEq,
        false_or] at h
      obtain ⟨unconfirmed, earlier_given⟩ := h
      obtain ⟨last, entry, le⟩ := before earlier_given
      refine ⟨last, (last?_confirm _ _ _ _ _).mpr ⟨entry, fun same => ?_⟩, le⟩
      exact UInt64.lt_of_lt_of_le (Entry.not_confirms_confirmed.mp unconfirmed same) le

/-- What was given is outstanding, or the history confirms it. -/
theorem outstanding_or_confirmed {account : String} {n : UInt64} {entries : List Entry}
    (given : n ∈ numbers account entries) :
    Outstanding account n entries ∨ ∃ e ∈ entries, e.Confirms account n := by
  induction entries with
  | nil => cases given
  | cons e entries ih =>
    by_cases now : e.number? account = some n
    · exact .inl (outstanding_cons.mpr (.inl now))
    · have before : n ∈ numbers account entries := by
        obtain ⟨d, hd, number⟩ := List.mem_filterMap.mp given
        rcases List.mem_cons.mp hd with rfl | hd
        · exact absurd number now
        · exact List.mem_filterMap.mpr ⟨d, hd, number⟩
      by_cases confirms : e.Confirms account n
      · exact .inr ⟨e, List.mem_cons_self .., confirms⟩
      · refine (ih before).imp (fun h => outstanding_cons.mpr (.inr ⟨confirms, h⟩)) ?_
        rintro ⟨d, hd, confirmed⟩
        exact ⟨d, List.mem_cons_of_mem _ hd, confirmed⟩

/-- A request that heeds all that was confirmed has read a number beyond it. -/
theorem lt_fetched_of_confirms {calls : List Call} {address account : String} {fetched n : UInt64}
    (same : key address = key account)
    (heeds : ∀ c ∈ calls, (Call.allocate address fetched).Heeds c)
    (confirmed : ∃ e ∈ history calls, e.Confirms account n) : n < fetched := by
  induction calls with
  | nil =>
    obtain ⟨e, he, -⟩ := confirmed
    cases he
  | cons c earlier ih =>
    obtain ⟨now, before⟩ := List.forall_mem_cons.mp heeds
    obtain ⟨e, he, confirms⟩ := confirmed
    rcases List.mem_cons.mp he with rfl | he
    · cases c with
      | allocate => cases confirms
      | confirm address' sequence =>
        obtain ⟨same', le⟩ := confirms
        exact UInt64.lt_of_le_of_lt le (now (same.trans same'.symm))
    · exact ih before ⟨e, he, confirms⟩

/-- **A number is beyond all that were given before it**, the confirmed ones too. -/
theorem lt_next_of_mem {calls : List Call} {address account : String} {fetched n : UInt64}
    (same : key address = key account)
    (room : ∀ n ∈ numbers account (history calls), n.toNat < 2 ^ 64 - 1)
    (heeds : ∀ c ∈ calls, (Call.allocate address fetched).Heeds c)
    (given : n ∈ numbers account (history calls)) : n < (after calls).next address fetched := by
  have number : ((after calls).next address fetched).toNat = _ :=
    toNat_next_of_lt fetched (firstFree_congr same ▸ firstFree_after_lt room)
  rw [firstFree_congr same] at number
  rw [UInt64.lt_iff_toNat_lt, number]
  rcases outstanding_or_confirmed given with outstanding | confirmed
  · obtain ⟨last, entry, le⟩ := exists_last?_of_outstanding room outstanding
    rw [UInt64.le_iff_toNat_le] at le
    rw [firstFree_of_last? entry]
    omega
  · have behind := UInt64.lt_iff_toNat_lt.mp (lt_fetched_of_confirms same heeds confirmed)
    omega

theorem pairwise_numbers {calls : List Call} {account : String} (heeded : calls.Pairwise Call.Heeds)
    (room : ∀ n ∈ numbers account (history calls), n.toNat < 2 ^ 64 - 1) :
    (numbers account (history calls)).Pairwise (· > ·) := by
  induction calls with
  | nil => exact .nil
  | cons c earlier ih =>
    obtain ⟨heeds, heeded⟩ := List.pairwise_cons.mp heeded
    have room_before : ∀ n ∈ numbers account (history earlier), n.toNat < 2 ^ 64 - 1 :=
      fun m given => room m (mem_numbers_cons given)
    have growing := ih heeded room_before
    cases c with
    | allocate address fetched =>
      rw [history, Call.run_allocate, numbers, List.filterMap_cons, Entry.number?_given]
      by_cases same : key address = key account
      · rw [if_pos same]
        exact List.pairwise_cons.mpr
          ⟨fun n given => lt_next_of_mem same room_before heeds given, growing⟩
      · rw [if_neg same]
        exact growing
    | confirm => exact growing

/-! ## How far they grow -/

/-- **A number is the ledger's, or one beyond it** exactly when another one is outstanding at or
above the ledger's. -/
theorem next_reaches {calls : List Call} {address account : String} (fetched : UInt64)
    (same : key address = key account)
    (room : ∀ n ∈ numbers account (history calls), n.toNat < 2 ^ 64 - 1) :
    fetched ≤ (after calls).next address fetched ∧
      (fetched < (after calls).next address fetched ↔
        ∃ n, Outstanding account n (history calls) ∧ fetched ≤ n) := by
  have number : ((after calls).next address fetched).toNat = _ :=
    toNat_next_of_lt fetched (firstFree_congr same ▸ firstFree_after_lt room)
  rw [firstFree_congr same] at number
  rw [UInt64.le_iff_toNat_le, UInt64.lt_iff_toNat_lt, number]
  refine ⟨Nat.le_max_left _ _, ?_, ?_⟩
  · intro beyond
    cases entry : (after calls).last? account with
    | none =>
      rw [firstFree, entry] at beyond
      exact absurd beyond (by simp)
    | some last =>
      rw [firstFree_of_last? entry] at beyond
      obtain ⟨later, e, earlier, split, given, kept⟩ :=
        (last?_eq_some_iff calls account last).mp entry
      refine ⟨last, ⟨later, e, earlier, split, given, fun d hd => (kept d hd).1⟩, ?_⟩
      rw [UInt64.le_iff_toNat_le]
      omega
  · rintro ⟨n, outstanding, le⟩
    obtain ⟨last, entry, le_last⟩ := exists_last?_of_outstanding room outstanding
    rw [firstFree_of_last? entry]
    rw [UInt64.le_iff_toNat_le] at le le_last
    omega

/-! ## Other accounts -/

/-- What is called for other accounts does not touch an account's entry, -/
theorem last?_filter (calls : List Call) (account : String) :
    (after (calls.filter (·.isFor account))).last? account = (after calls).last? account := by
  induction calls with
  | nil => rfl
  | cons c earlier ih =>
    by_cases own : c.isFor account = true
    · rw [List.filter_cons_of_pos own]
      cases c with
      | allocate address fetched =>
        have same : key address = key account := beq_iff_eq.mp own
        rw [after, after, Call.run_allocate, Call.run_allocate, allocate, allocate, last?_insert,
          last?_insert, next_congr fetched same ih, ih]
      | confirm address sequence =>
        apply Option.ext
        intro n
        rw [after, after, Call.run_confirm, Call.run_confirm, last?_confirm, last?_confirm, ih]
    · rw [List.filter_cons_of_neg own, ih]
      cases c with
      | allocate address fetched =>
        have other : key account ≠ key address := fun eq => own (beq_iff_eq.mpr eq.symm)
        rw [after, Call.run_allocate, allocate, last?_insert, if_neg other]
      | confirm address sequence =>
        have other : key address ≠ key account := fun eq => own (beq_iff_eq.mpr eq)
        apply Option.ext
        intro n
        rw [after, Call.run_confirm, last?_confirm]
        exact ⟨fun last => ⟨last, fun eq => absurd eq other⟩, fun h => h.1⟩

theorem isFor_run (account : String) (book : SequenceBook) (c : Call) :
    (c.run book).1.isFor account = c.isFor account := by
  cases c <;> rfl

/-- nor what is answered for it. -/
theorem history_filter (calls : List Call) (account : String) :
    history (calls.filter (·.isFor account)) = (history calls).filter (·.isFor account) := by
  induction calls with
  | nil => rfl
  | cons c earlier ih =>
    have marks := isFor_run account (after earlier) c
    by_cases own : c.isFor account = true
    · rw [List.filter_cons_of_pos own, history, history, List.filter_cons_of_pos (marks.trans own),
        ih]
      congr 1
      cases c with
      | allocate address fetched =>
        have same : key address = key account := beq_iff_eq.mp own
        rw [Call.run_allocate, Call.run_allocate, next_congr fetched same (last?_filter _ _)]
      | confirm => rfl
    · rw [List.filter_cons_of_neg own, history, List.filter_cons_of_neg (marks ▸ own), ih]

/-! ## The whole course -/

/-- What the calls of a new book come to for an account. -/
structure Orderly (calls : List Call) (account : String) : Prop where
  /-- Its numbers grow. -/
  growing : (numbers account (history calls)).Pairwise (· > ·)
  /-- None is behind the ledger's, and one is beyond it exactly when another number was outstanding
  at or above the ledger's. -/
  reached : ∀ address fetched sequence earlier,
    (.given address fetched sequence :: earlier) <:+ history calls → key address = key account →
      fetched ≤ sequence ∧
        (fetched < sequence ↔ ∃ n, Outstanding account n earlier ∧ fetched ≤ n)
  /-- The book's entry is the last number, unless it has been confirmed since. -/
  last : ∀ n, (after calls).last? account = some n ↔ LastOutstanding account n (history calls)
  /-- Without the calls for other accounts, the account's answers and entry are the same. -/
  alone : history (calls.filter (·.isFor account)) = (history calls).filter (·.isFor account) ∧
    (after (calls.filter (·.isFor account))).last? account = (after calls).last? account

theorem reached_of_room {calls : List Call} {account : String}
    (room : ∀ n ∈ numbers account (history calls), n.toNat < 2 ^ 64 - 1)
    {address : String} {fetched sequence : UInt64} {earlier : List Entry}
    (entry : (.given address fetched sequence :: earlier) <:+ history calls)
    (same : key address = key account) :
    fetched ≤ sequence ∧
      (fetched < sequence ↔ ∃ n, Outstanding account n earlier ∧ fetched ≤ n) := by
  induction calls with
  | nil => cases List.suffix_nil.mp entry
  | cons c calls ih =>
    have room_before : ∀ n ∈ numbers account (history calls), n.toNat < 2 ^ 64 - 1 :=
      fun m given => room m (mem_numbers_cons given)
    rcases List.suffix_cons_iff.mp entry with now | before
    · cases c with
      | allocate address' fetched' =>
        rw [Call.run_allocate] at now
        cases now
        exact next_reaches fetched same room_before
      | confirm => cases now
    · exact ih room_before before

/-- **The book is orderly** for every account, where every request has read a number beyond what was
confirmed for its account before, and the last word is not given. -/
theorem orderly_of_heeded {calls : List Call} (heeded : calls.Pairwise Call.Heeds)
    (room : ∀ account, ∀ n ∈ numbers account (history calls), n.toNat < 2 ^ 64 - 1)
    (account : String) : Orderly calls account where
  growing := pairwise_numbers heeded (room account)
  reached _ _ _ _ entry same := reached_of_room (room account) entry same
  last := last?_eq_some_iff calls account
  alone := ⟨history_filter calls account, last?_filter calls account⟩

/-- Calls for two accounts, one of them in two spellings, the last one first. -/
def rehearsedCalls : List Call :=
  [.allocate "ra" 7, .allocate "rB" 3, .allocate "rA" 7, .confirm "rA" 6, .allocate "RA" 5,
    .allocate "rB" 3, .allocate "rA" 5]

theorem rehearsedCalls_room (account : String) :
    ∀ n ∈ numbers account (history rehearsedCalls), n.toNat < 2 ^ 64 - 1 := by
  have few : (history rehearsedCalls).all (fun e => e.sequence.toNat < 2 ^ 64 - 1) = true := by
    decide +kernel
  intro n given
  obtain ⟨e, he, number⟩ := List.mem_filterMap.mp given
  rw [← Entry.sequence_of_number? number]
  exact of_decide_eq_true (List.all_eq_true.mp few e he)

theorem rehearsedCalls_orderly :
    rehearsedCalls.Pairwise Call.Heeds ∧
      numbers "rA" (history rehearsedCalls) = [8, 7, 6, 5] ∧
      (numbers "rA" (history rehearsedCalls)).Pairwise (· > ·) ∧
      (after rehearsedCalls).last? "rb" = some 4 ∧
      LastOutstanding "rb" 4 (history rehearsedCalls) := by
  have heeded : rehearsedCalls.Pairwise Call.Heeds := by decide +kernel
  have orderly := orderly_of_heeded heeded rehearsedCalls_room
  have last : (after rehearsedCalls).last? "rb" = some 4 := by decide +kernel
  exact ⟨heeded, by decide +kernel, (orderly "rA").growing, last, ((orderly "rb").last 4).mp last⟩

end SwapPayout.SequenceBook
