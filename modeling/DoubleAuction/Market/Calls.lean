import DoubleAuction.Market.Admission
import DoubleAuction.Market.Tick

/-! # Calls on a market

Anyone may call a market, with ledgers of their choice: the market holds none and only checks their
names. A call that fails leaves the market as it was, but for what a tick that was taken back marks
as used. A run is a list of calls, with an answer to each.
-/

namespace DoubleAuction.Market

/-- What a market may be asked to do, with the ledgers that it needs for it. -/
inductive Call (L : Type u) where
  | init (caller : Address) (heaps : Sided KeyHeap) (currencies : Sided Address)
  | place (side : Side) (ledger : L) (caller : Address) (price : UInt64)
  | tick (ledgers : Sided L) (height : UInt64) (budget : Option Budget)
  deriving DecidableEq, Repr

/-- The answer to a call. -/
inductive Answer where
  | initialized
  | placed (admission : Admission)
  | ticked (report : TickReport)
  | failed (error : Error)
  deriving DecidableEq, Repr

variable {L : Type u} [Ledger L]

/-- Answers a call. -/
def call (market : Market) : Call L → Answer × Market
  | .init caller heaps currencies =>
    match market.init caller heaps currencies with
    | .ok next => (.initialized, next)
    | .error error => (.failed error, market)
  | .place side ledger caller price =>
    match market.place side ledger caller price with
    | .ok (admission, next) => (.placed admission, next)
    | .error error => (.failed error, market)
  | .tick ledgers height budget =>
    let ticked := market.tick ledgers height budget
    let answer := match ticked.result with
      | .ok report => .ticked report
      | .error error => .failed error
    (answer, ticked.market)

/-- Answers calls in order. -/
def run (market : Market) : List (Call L) → List Answer × Market
  | [] => ([], market)
  | first :: rest =>
    let (answer, next) := market.call first
    let (answers, last) := next.run rest
    (answer :: answers, last)

end DoubleAuction.Market
