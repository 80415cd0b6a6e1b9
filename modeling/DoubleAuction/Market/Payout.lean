import DoubleAuction.Market.Claims
import DoubleAuction.Matching.Fill

/-! # Paying fills

Sellers are paid in the first currency and buyers in the second, in the order of the fills; amounts
of zero are skipped. When a ledger refuses a payout, the payouts already made are taken back, newest
first. A payout taken back is recorded as a transfer into the market, like a deposit; when all are
back, the latest transfer of every ledger concerned is therefore retired.
-/

namespace DoubleAuction

/-- A payment out of the market's escrow of a side. -/
structure Payout where
  side : Side
  payee : Address
  amount : UInt64
  deriving DecidableEq, Repr

/-- The payments that a fill calls for: to the seller, then to the buyer. -/
def Fill.payouts (fill : Fill) : List Payout :=
  [⟨.buy, fill.seller, fill.toSeller⟩, ⟨.sell, fill.buyer, fill.toBuyer⟩].filter fun payout =>
    payout.amount ≠ 0

/-- What became of a list of payouts. -/
inductive PayoutRun (L : Type u) where
  /-- All were made. -/
  | paid (ledgers : Sided L)
  /-- One was refused, and those before it were returned. -/
  | undone (ledgers : Sided L) (refused : Payout) (returned : List Payout)
  /-- One was refused, and one before it could not be returned. -/
  | stuck (ledgers : Sided L) (kept : Payout)

namespace Payout

variable {L : Type u} [Ledger L]

/-- Transfers the amount of a payout on the ledger of its side. -/
def transfer (payout : Payout) (ledgers : Sided L) (sender recipient : Address) : Bool × Sided L :=
  let amount : Amount := payout.amount.toBitVec.setWidth 128
  let (made, ledger) := Ledger.transfer (ledgers.get payout.side) sender recipient amount
  (made, ledgers.set payout.side ledger)

/-- The name of the ledger that a payout is made on. -/
def ledgerAddress (payout : Payout) (ledgers : Sided L) : Address :=
  Ledger.address (ledgers.get payout.side)

/-- Makes payouts in order; after a refusal takes them back in reverse. -/
def payAll (market : Address) (ledgers : Sided L) : List Payout → PayoutRun L
  | [] => .paid ledgers
  | payout :: rest =>
    match payout.transfer ledgers market payout.payee with
    | (false, ledgers) => .undone ledgers payout []
    | (true, ledgers) =>
      match payAll market ledgers rest with
      | .undone ledgers refused returned =>
        match payout.transfer ledgers payout.payee market with
        | (true, ledgers) => .undone ledgers refused (payout :: returned)
        | (false, ledgers) => .stuck ledgers payout
      | run => run

end Payout

/-- Retires the latest transfer of every ledger that a payout was returned on. -/
def Claims.retireReturned {L : Type u} [Ledger L] (claims : Claims) (ledgers : Sided L)
    (returned : List Payout) : Claims :=
  let retire (claims : Claims) (side : Side) : Claims :=
    if returned.any (·.side = side) then claims.retireLatest (ledgers.get side) else claims
  retire (retire claims .buy) .sell

end DoubleAuction
