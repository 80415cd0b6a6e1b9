import DoubleAuction.Book.KeyHeap

/-! # The book of a market

A book is what is bound to a market once and for all: a heap for each side, and the currency that
each side escrows.
-/

namespace DoubleAuction

/-- The heaps and the currencies of a market. -/
structure Book where
  heaps : Sided KeyHeap
  currencies : Sided Address
  deriving DecidableEq, Repr

namespace Book

/-- The escrow that the orders resting on a side commit. -/
def committed (book : Book) (side : Side) : Nat := (book.heaps.get side).committed side

/-- The same book with another heap on a side. -/
def setHeap (book : Book) (side : Side) (heap : KeyHeap) : Book :=
  { book with heaps := book.heaps.set side heap }

end Book

end DoubleAuction
