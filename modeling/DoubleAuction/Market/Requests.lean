import DoubleAuction.Market.Exchange

/-! # Requests between ticks

Between two ticks an exchange serves requests. Each is about one side: about the token that the side
escrows, or about an order that is to rest there. The requests of several parties arrive as an
interleaving of what each of them asks.
-/

namespace DoubleAuction

/-- A merge of two lists that keeps the order of each. -/
inductive Interleaving {α : Type u} : List α → List α → List α → Prop
  | nil : Interleaving [] [] []
  | left {first : α} {lefts rights merged : List α} (rest : Interleaving lefts rights merged) :
      Interleaving (first :: lefts) rights (first :: merged)
  | right {first : α} {lefts rights merged : List α} (rest : Interleaving lefts rights merged) :
      Interleaving lefts (first :: rights) (first :: merged)

namespace Exchange

/-- What may be asked of a side. -/
inductive Action where
  | issue (caller recipient : Address) (amount : Amount)
  | send (sender recipient : Address) (amount : Amount)
  | transfer (sender recipient : Address) (amount : Amount)
  | refuse (recipient : Address) (count : Nat)
  | place (caller : Address) (price : UInt64)
  deriving DecidableEq, Repr

/-- An action on a side. -/
structure Request where
  side : Side
  action : Action
  deriving DecidableEq, Repr

/-- The step that carries out a request. -/
def Request.step (request : Request) : Step :=
  match request.action with
  | .issue caller recipient amount => .issue request.side caller recipient amount
  | .send sender recipient amount => .send request.side sender recipient amount
  | .transfer sender recipient amount => .transfer request.side sender recipient amount
  | .refuse recipient count => .refuse request.side recipient count
  | .place caller price => .place request.side caller price

/-- A request with its answer and with the balances that it leaves on the ledger of its side. -/
structure Served where
  request : Request
  answer : Answer
  balances : AddressMap Amount
  deriving DecidableEq, Repr

/-- Carries out requests in order. -/
def serve (exchange : Exchange) : List Request → List Served × Exchange
  | [] => ([], exchange)
  | first :: rest =>
    let (answer, next) := exchange.step first.step
    let (served, last) := next.serve rest
    (⟨first, answer, (next.ledgers.get first.side).token.balances⟩ :: served, last)

end Exchange

end DoubleAuction
