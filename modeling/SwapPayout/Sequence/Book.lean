import SwapPayout.Text.LowerCase

/-!
# The book of sequences

Every transaction of an account needs the next number of its sequence, and the ledger only counts
those it has seen. The book remembers the last number handed out per account, so that swaps that are
paid at the same time get different ones. Spellings of an account that differ in case share an
entry.
-/

namespace SwapPayout

/-- The last number handed out, by account. -/
structure SequenceBook where
  entries : List (String × UInt64) := []
  deriving Repr

namespace SequenceBook

def key (address : String) : String := Text.lowerCase address

/-- The last number handed out to an account, unless it has been confirmed. -/
def last? (book : SequenceBook) (address : String) : Option UInt64 :=
  book.entries.lookup (key address)

/-- The book without an account's entry. -/
def erase (book : SequenceBook) (address : String) : SequenceBook :=
  ⟨book.entries.filter (·.1 != key address)⟩

def insert (book : SequenceBook) (address : String) (sequence : UInt64) : SequenceBook :=
  ⟨(key address, sequence) :: (book.erase address).entries⟩

/-- The number to use where the ledger is at `fetched`: that one, or the one after the last. -/
def next (book : SequenceBook) (address : String) (fetched : UInt64) : UInt64 :=
  match book.last? address with
  | some last => if fetched ≤ last then last + 1 else fetched
  | none => fetched

def allocate (book : SequenceBook) (address : String) (fetched : UInt64) :
    UInt64 × SequenceBook :=
  let sequence := book.next address fetched
  (sequence, book.insert address sequence)

/-- Forgets an account's entry once the ledger has reached it. -/
def confirm (book : SequenceBook) (address : String) (sequence : UInt64) : SequenceBook :=
  match book.last? address with
  | some last => if last ≤ sequence then book.erase address else book
  | none => book

end SequenceBook

end SwapPayout
