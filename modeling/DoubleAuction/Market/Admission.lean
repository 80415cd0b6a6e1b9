import DoubleAuction.Market

/-! # Admission

An order is admitted when its trader has just deposited its escrow; otherwise it is rejected.
Rejection is an outcome, not an error: nothing is pushed, nothing is claimed, and the reason says
why.
-/

namespace DoubleAuction

/-- What became of an attempt to place an order. -/
inductive Admission where
  /-- The order rests under its key. -/
  | accepted (order : Order) (key : Key)
  | rejected (reason : Rejection)
  deriving DecidableEq, Repr

namespace Market

variable {L : Type u} [Ledger L]

/-- Judges an attempt to place an order and, if it may rest, makes its claim. -/
def judge (market : Market) (ledger : L) (caller : Address) (price : UInt64) :
    Except Rejection (Claim × Claims) :=
  if caller = .zero then .error .zeroTrader
  else if price = 0 ∨ fieldLimit ≤ price.toNat then .error .invalidPrice
  else market.claims.claim ledger caller market.address

/-- Rests an order that is funded by the caller's latest deposit on the ledger of its side. The
deposited amount becomes the quantity of the order. -/
def place (market : Market) (side : Side) (ledger : L) (caller : Address) (price : UInt64) :
    Except Error (Admission × Market) := do
  let some book := market.book | throw .notInitialized
  checkLedger (book.currencies.get side) ledger
  match market.judge ledger caller price with
  | .error reason => return (.rejected reason, market)
  | .ok (claim, claims) =>
    let order ← Order.create side price claim.quantity caller
    let heap := (book.heaps.get side).push market.address order.key
    let book := some (book.setHeap side heap)
    return (.accepted order order.key, { market with book, claims })

end Market

end DoubleAuction
