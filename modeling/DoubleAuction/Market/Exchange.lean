import DoubleAuction.Ledger.Refusal
import DoubleAuction.Market.Admission
import DoubleAuction.Market.Tick

/-! # Exchanges

An exchange is a market together with the ledgers of its two currencies. It moves by steps: units
are issued and sent, transfers are refused, orders are placed, and the market is cleared. A run is a
list of steps, with an answer to each.
-/

namespace DoubleAuction

/-- A market and its two ledgers; the ledger of a side holds what that side escrows. -/
structure Exchange where
  market : Market
  ledgers : Sided RefusingToken
  deriving DecidableEq, Repr

namespace Exchange

/-- What may happen on an exchange. -/
inductive Step where
  | issue (side : Side) (caller recipient : Address) (amount : Amount)
  | send (side : Side) (sender recipient : Address) (amount : Amount)
  /-- Like `send`, but the ledger may refuse it. -/
  | transfer (side : Side) (sender recipient : Address) (amount : Amount)
  | refuse (side : Side) (recipient : Address) (count : Nat)
  | place (side : Side) (caller : Address) (price : UInt64)
  | tick (height : UInt64) (budget : Option Budget)
  deriving DecidableEq, Repr

/-- The answer to a step. -/
inductive Answer where
  | done (success : Bool)
  | placed (admission : Admission)
  | ticked (report : TickReport)
  | failed (error : Error)
  deriving DecidableEq, Repr

/-- Replaces the token of a side. -/
def setToken (exchange : Exchange) (side : Side) (token : Token) : Exchange :=
  { exchange with
    ledgers := exchange.ledgers.set side { exchange.ledgers.get side with token } }

/-- Carries out a step. -/
def step (exchange : Exchange) : Step → Answer × Exchange
  | .issue side caller recipient amount =>
    let (success, token) := (exchange.ledgers.get side).token.issue caller recipient amount
    (.done success, exchange.setToken side token)
  | .send side sender recipient amount =>
    let (success, token) := (exchange.ledgers.get side).token.send sender recipient amount
    (.done success, exchange.setToken side token)
  | .transfer side sender recipient amount =>
    let (success, ledger) := (exchange.ledgers.get side).transfer sender recipient amount
    (.done success, { exchange with ledgers := exchange.ledgers.set side ledger })
  | .refuse side recipient count =>
    let ledger := (exchange.ledgers.get side).refuse recipient count
    (.done true, { exchange with ledgers := exchange.ledgers.set side ledger })
  | .place side caller price =>
    match exchange.market.place side (exchange.ledgers.get side) caller price with
    | .ok (admission, market) => (.placed admission, { exchange with market })
    | .error error => (.failed error, exchange)
  | .tick height budget =>
    let ticked := exchange.market.tick exchange.ledgers height budget
    let answer := match ticked.result with
      | .ok report => .ticked report
      | .error error => .failed error
    (answer, ⟨ticked.market, ticked.ledgers⟩)

/-- Carries out steps in order. -/
def run (exchange : Exchange) : List Step → List Answer × Exchange
  | [] => ([], exchange)
  | first :: rest =>
    let (answer, next) := exchange.step first
    let (answers, last) := next.run rest
    (answer :: answers, last)

end Exchange

end DoubleAuction
