import SwapPayout.Sequence.Book
import SwapPayout.World

/-!
# Keepers of sequence numbers in memory

The book of sequences as a service, and a keeper that always gives the same number, with which the
answer to a misbehaving one can be rehearsed.
-/

namespace SwapPayout

instance : SequenceKeeper SequenceBook where
  allocate address fetched book := book.allocate address fetched

namespace InMemory

/-- A book, or a fixed number in its place. -/
structure Keeper where
  fixed : Option UInt64 := none
  book : SequenceBook := {}

instance : SequenceKeeper Keeper where
  allocate address fetched k :=
    match k.fixed with
    | some sequence => (sequence, k)
    | none =>
      let (sequence, book) := k.book.allocate address fetched
      (sequence, { k with book })

end InMemory

end SwapPayout
