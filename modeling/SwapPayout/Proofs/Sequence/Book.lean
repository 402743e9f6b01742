import SwapPayout.Sequence.Book

/-!
# What the book remembers

The book is a table with one entry an account (`last?_insert`, `last?_erase`), and what matters of
an entry is the first number beyond it, `firstFree`. In these terms its operations are arithmetic: a
number that is handed out is the greater one of `firstFree` and the ledger's (`toNat_next`), after
which the next one is the first that is free (`firstFree_allocate`); a confirmation either forgets
the entry or leaves it (`firstFree_confirm`).

Numbers are words of 64 bits. `toNat_next` says what happens at the last one: the number after it is
zero. Laws that need it not to be reached say so.
-/

namespace SwapPayout.SequenceBook

/-! ## One entry an account -/

/-- The entries under one key, when those under another are dropped. -/
theorem lookup_filter {entries : List (String × UInt64)} {dropped wanted : String} :
    (entries.filter (·.1 != dropped)).lookup wanted =
      if wanted = dropped then none else entries.lookup wanted := by
  induction entries with
  | nil => split <;> rfl
  | cons entry entries ih =>
    obtain ⟨key, sequence⟩ := entry
    by_cases same : key = dropped
    · subst same
      rw [List.filter_cons_of_neg (by simp), ih]
      split
      · rfl
      · next other => rw [List.lookup_cons, beq_eq_false_iff_ne.mpr other]
    · rw [List.filter_cons_of_pos (by simpa using same), List.lookup_cons, List.lookup_cons, ih]
      by_cases found : wanted = key
      · subst found
        simp [same]
      · rw [beq_eq_false_iff_ne.mpr found]

theorem last?_erase (book : SequenceBook) (address other : String) :
    (book.erase address).last? other =
      if key other = key address then none else book.last? other :=
  lookup_filter

/-- An entry replaces the one that there was, and no other. -/
theorem last?_insert (book : SequenceBook) (address other : String) (sequence : UInt64) :
    (book.insert address sequence).last? other =
      if key other = key address then some sequence else book.last? other := by
  show List.lookup (key other) ((key address, sequence) :: (book.erase address).entries) = _
  rw [List.lookup_cons]
  by_cases same : key other = key address
  · rw [if_pos same, same, beq_self_eq_true]
  · rw [if_neg same, beq_eq_false_iff_ne.mpr same]
    exact (last?_erase book address other).trans (if_neg same)

/-! ## The first free number -/

/-- The first number beyond the last one that was handed out to an account; zero when the book
remembers none. -/
def firstFree (book : SequenceBook) (address : String) : Nat :=
  (book.last? address).elim 0 fun last => last.toNat + 1

/-- **The next number** is the greater one of the first free number and the ledger's; behind the
last word it starts again from zero. -/
theorem toNat_next (book : SequenceBook) (address : String) (fetched : UInt64) :
    (book.next address fetched).toNat =
      max fetched.toNat (book.firstFree address) % 2 ^ 64 := by
  have word : fetched.toNat < 2 ^ 64 := fetched.toNat_lt
  unfold next firstFree
  cases book.last? address with
  | none =>
    show fetched.toNat = max fetched.toNat 0 % 2 ^ 64
    rw [Nat.max_zero, Nat.mod_eq_of_lt word]
  | some last =>
    show (if fetched ≤ last then last + 1 else fetched).toNat =
      max fetched.toNat (last.toNat + 1) % 2 ^ 64
    by_cases behind : fetched ≤ last
    · have le : fetched.toNat ≤ last.toNat := UInt64.le_iff_toNat_le.mp behind
      rw [if_pos behind, Nat.max_eq_right (Nat.le_succ_of_le le)]
      exact UInt64.toNat_add last 1
    · have lt : last.toNat < fetched.toNat := by
        have : ¬ fetched.toNat ≤ last.toNat := fun le => behind (UInt64.le_iff_toNat_le.mpr le)
        exact Nat.lt_of_not_le this
      rw [if_neg behind, Nat.max_eq_left lt, Nat.mod_eq_of_lt word]

/-- Short of the last word, the next number is beyond all that were handed out. -/
theorem toNat_next_of_lt {book : SequenceBook} {address : String} (fetched : UInt64)
    (room : book.firstFree address < 2 ^ 64) :
    (book.next address fetched).toNat = max fetched.toNat (book.firstFree address) := by
  rw [toNat_next]
  exact Nat.mod_eq_of_lt (Nat.max_lt.mpr ⟨fetched.toNat_lt, room⟩)

/-- Short of the last word, the next number is not behind the ledger's. -/
theorem le_next {book : SequenceBook} {address : String} (fetched : UInt64)
    (room : book.firstFree address < 2 ^ 64) : fetched ≤ book.next address fetched := by
  rw [UInt64.le_iff_toNat_le, toNat_next_of_lt fetched room]
  exact Nat.le_max_left _ _

theorem firstFree_insert (book : SequenceBook) (address : String) (sequence : UInt64) :
    (book.insert address sequence).firstFree address = sequence.toNat + 1 := by
  rw [firstFree, last?_insert, if_pos rfl]
  rfl

/-- Behind the number that is handed out the next one is free. -/
theorem firstFree_allocate (book : SequenceBook) (address : String) (fetched : UInt64) :
    (book.allocate address fetched).2.firstFree address =
      (book.next address fetched).toNat + 1 :=
  firstFree_insert book address (book.next address fetched)

/-- A confirmation forgets the entry when no number beyond the confirmed one was handed out. -/
theorem firstFree_confirm (book : SequenceBook) (address : String) (sequence : UInt64) :
    (book.confirm address sequence).firstFree address =
      if book.firstFree address ≤ sequence.toNat + 1 then 0 else book.firstFree address := by
  cases found : book.last? address with
  | none =>
    have unchanged : book.confirm address sequence = book := by rw [confirm, found]
    have none_free : book.firstFree address = 0 := by rw [firstFree, found]; rfl
    rw [unchanged, none_free, if_pos (Nat.zero_le _)]
  | some last =>
    have free : book.firstFree address = last.toNat + 1 := by rw [firstFree, found]; rfl
    have choice : book.confirm address sequence =
        if last ≤ sequence then book.erase address else book := by rw [confirm, found]
    rw [choice, free]
    by_cases reached : last ≤ sequence
    · rw [if_pos reached, if_pos (Nat.succ_le_succ (UInt64.le_iff_toNat_le.mp reached)), firstFree,
        last?_erase, if_pos rfl]
      rfl
    · have beyond : ¬ last.toNat + 1 ≤ sequence.toNat + 1 := fun le =>
        reached (UInt64.le_iff_toNat_le.mpr (Nat.le_of_succ_le_succ le))
      rw [if_neg reached, if_neg beyond, free]

end SwapPayout.SequenceBook
