import DoubleAuction.Market.Exchange
import DoubleAuction.Stored.Market

/-! # Exchanges that are put down and taken up again

Between two steps an exchange may be put down as the stored texts of its market and of its two
tokens, and taken up from these texts. The writer chooses the order of the members of every object.
Refusals are not stored.
-/

namespace DoubleAuction.Exchange

/-- The exchange as it comes back from its stored texts, written with members in the given
arrangement. -/
def reload? (exchange : Exchange) (arrange : Json → Json) : Option Exchange := do
  let market ← Stored.ofText? Market (arrange (Stored.toJson exchange.market)).render
  let token? (side : Side) : Option Token :=
    Stored.ofText? Token (arrange (Stored.toJson (exchange.ledgers.get side).token)).render
  return ⟨market, ⟨.ofToken (← token? .buy), .ofToken (← token? .sell)⟩⟩

/-- What may happen on an exchange that is put down at times. -/
inductive Turn where
  | step (step : Step)
  | reload (arrange : Json → Json)

/-- The step of a turn. -/
def Turn.step? : Turn → Option Step
  | .step taken => some taken
  | .reload _ => none

/-- Carries out turns in order, as long as every stored text can be read. -/
def play? (exchange : Exchange) : List Turn → Option (List Answer × Exchange)
  | [] => some ([], exchange)
  | .step taken :: rest => do
    let (answer, next) := exchange.step taken
    let (answers, last) ← next.play? rest
    return (answer :: answers, last)
  | .reload arrange :: rest => do
    let next ← exchange.reload? arrange
    next.play? rest

end DoubleAuction.Exchange
