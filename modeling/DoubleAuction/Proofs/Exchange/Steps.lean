import DoubleAuction.Market.Exchange
import DoubleAuction.Proofs.Market.Admissions
import DoubleAuction.Proofs.Market.Ticks

/-! # What a step can do

A step of an exchange is quiet, or it issues units, sends them, rests an order, clears the book, or
attempts to (`Exchange.StepEnd`, `Exchange.step_end`). Over any run the names of the market, of its
currencies and of the ledgers stay, and a transfer that was used stays used (`Exchange.Follows`,
`Exchange.follows_run`).
-/

namespace DoubleAuction

namespace Exchange

/-- The sender of a step that sends. -/
def Step.sender? : Step → Option Address
  | .send _ sender _ _ | .transfer _ sender _ _ => some sender
  | _ => none

/-- Steps that, by their answer, moved nothing. -/
inductive Quiet : Step → Answer → Prop
  | issue {side : Side} {caller recipient : Address} {amount : Amount} :
      Quiet (.issue side caller recipient amount) (.done false)
  | send {side : Side} {sender recipient : Address} {amount : Amount} :
      Quiet (.send side sender recipient amount) (.done false)
  | transfer {side : Side} {sender recipient : Address} {amount : Amount} :
      Quiet (.transfer side sender recipient amount) (.done false)
  | refuse {side : Side} {recipient : Address} {count : Nat} :
      Quiet (.refuse side recipient count) (.done true)
  | rejected {side : Side} {caller : Address} {price : UInt64} {reason : Rejection} :
      Quiet (.place side caller price) (.placed (.rejected reason))
  | failed {step : Step} {error : Error} : Quiet step (.failed error)
  | early {height : UInt64} {budget : Option Budget} {epoch : Epoch} :
      Quiet (.tick height budget) (.ticked (.idle epoch))

/-- How a step ends: the answer it gives and the exchange it leaves. -/
inductive StepEnd (exchange : Exchange) : Step → Answer → Exchange → Prop
  | quiet {step : Step} {answer : Answer} {next : Exchange} (quiet : Quiet step answer)
      (market : next.market = exchange.market)
      (alike : ∀ side, (exchange.ledgers.get side).token.Alike (next.ledgers.get side).token) :
      StepEnd exchange step answer next
  | issued {side : Side} {caller recipient : Address} {amount : Amount} {token : Token}
      (granted : (exchange.ledgers.get side).token.issue caller recipient amount = (true, token)) :
      StepEnd exchange (.issue side caller recipient amount) (.done true)
        (exchange.setToken side token)
  | sent {step : Step} {side : Side} {sender recipient : Address} {amount : Amount}
      {ledger : RefusingToken}
      (sends : step = .send side sender recipient amount ∨
        step = .transfer side sender recipient amount)
      (sendable : (exchange.ledgers.get side).token.canSend sender recipient amount = true)
      (moved : ledger.token =
        ((exchange.ledgers.get side).token.move sender recipient amount).record sender recipient
          amount true) :
      StepEnd exchange step (.done true)
        { exchange with ledgers := exchange.ledgers.set side ledger }
  | accepted {side : Side} {caller : Address} {price : UInt64} {book : Book} {transfer : Transfer}
      (bound : exchange.market.book = some book)
      (same : (exchange.ledgers.get side).token.address = book.currencies.get side)
      (trader : caller ≠ .zero) (priced : price ≠ 0) (priceFits : price.toNat < fieldLimit)
      (latest : (exchange.ledgers.get side).token.lastSuccess = some transfer)
      (claimable : exchange.market.claims.Claimable (exchange.ledgers.get side).token.address caller
        exchange.market.address transfer) :
      StepEnd exchange (.place side caller price)
        (.placed (.accepted (Market.orderFrom side caller price transfer)
          (Market.orderFrom side caller price transfer).key))
        { exchange with
          market := exchange.market.withOrder book side (exchange.ledgers.get side).token.address
            (Market.orderFrom side caller price transfer) transfer }
  | cleared {height : UInt64} {budget : Option Budget} {plan : Plan} {last : Sided RefusingToken}
      (found : exchange.market.plan? exchange.ledgers height budget = .ok (some plan))
      (run : Payout.payAll exchange.market.address exchange.ledgers plan.payouts = .paid last) :
      StepEnd exchange (.tick height budget) (.ticked plan.report)
        ⟨exchange.market.commit plan, last⟩
  | undone {height : UInt64} {budget : Option Budget} {plan : Plan} {last : Sided RefusingToken}
      {refused : Payout} {returned : List Payout}
      (found : exchange.market.plan? exchange.ledgers height budget = .ok (some plan))
      (run : Payout.payAll exchange.market.address exchange.ledgers plan.payouts =
        .undone last refused returned) :
      StepEnd exchange (.tick height budget)
        (.failed (.transferRejected (refused.ledgerAddress last) refused.payee refused.amount))
        ⟨{ exchange.market with claims := exchange.market.claims.retireReturned last returned },
          last⟩
  | stuck {height : UInt64} {budget : Option Budget} {plan : Plan} {last : Sided RefusingToken}
      {kept : Payout}
      (found : exchange.market.plan? exchange.ledgers height budget = .ok (some plan))
      (run : Payout.payAll exchange.market.address exchange.ledgers plan.payouts =
        .stuck last kept) :
      StepEnd exchange (.tick height budget)
        (.failed (.internal (.payoutNotReturned kept.amount kept.payee (kept.ledgerAddress last))))
        ⟨exchange.market, last⟩

section StepEnd

variable {exchange : Exchange}

/-- A token that is alike on one side leaves both sides alike. -/
theorem alike_set {side : Side} {ledger : RefusingToken}
    (alike : (exchange.ledgers.get side).token.Alike ledger.token) (other : Side) :
    (exchange.ledgers.get other).token.Alike
      ((exchange.ledgers.set side ledger).get other).token := by
  rw [Sided.get_set]
  split
  case isTrue same =>
    subst same
    exact alike
  case isFalse => exact .refl _

theorem issue_end (exchange : Exchange) (side : Side) (caller recipient : Address)
    (amount : Amount) :
    StepEnd exchange (.issue side caller recipient amount)
      (exchange.step (.issue side caller recipient amount)).1
      (exchange.step (.issue side caller recipient amount)).2 := by
  simp only [step]
  rcases outcome : (exchange.ledgers.get side).token.issue caller recipient amount with
    ⟨_ | _, token⟩
  case false =>
    obtain rfl := Token.issue_refused outcome
    exact .quiet .issue rfl (alike_set (.refl _))
  case true => exact .issued outcome

theorem send_end (exchange : Exchange) (side : Side) (sender recipient : Address)
    (amount : Amount) :
    StepEnd exchange (.send side sender recipient amount)
      (exchange.step (.send side sender recipient amount)).1
      (exchange.step (.send side sender recipient amount)).2 := by
  simp only [step]
  rcases outcome : (exchange.ledgers.get side).token.send sender recipient amount with
    ⟨_ | _, token⟩
  case false =>
    obtain rfl := Token.send_failed outcome
    exact .quiet .send rfl (alike_set (.attempted _ sender recipient amount))
  case true =>
    obtain ⟨sendable, rfl⟩ := Token.send_made outcome
    exact .sent (.inl rfl) sendable rfl

theorem transfer_end (exchange : Exchange) (side : Side) (sender recipient : Address)
    (amount : Amount) :
    StepEnd exchange (.transfer side sender recipient amount)
      (exchange.step (.transfer side sender recipient amount)).1
      (exchange.step (.transfer side sender recipient amount)).2 := by
  simp only [step]
  rcases outcome : (exchange.ledgers.get side).transfer sender recipient amount with
    ⟨_ | _, ledger⟩
  case false => exact .quiet .transfer rfl (alike_set (RefusingToken.transfer_unmade outcome))
  case true =>
    obtain ⟨sendable, moved⟩ := RefusingToken.transfer_made outcome
    exact .sent (.inr rfl) sendable moved

theorem place_step_end (exchange : Exchange) (side : Side) (caller : Address) (price : UInt64) :
    StepEnd exchange (.place side caller price) (exchange.step (.place side caller price)).1
      (exchange.step (.place side caller price)).2 := by
  simp only [step]
  have ended := Market.place_end exchange.market side (exchange.ledgers.get side) caller price
  generalize exchange.market.place side (exchange.ledgers.get side) caller price = placed at ended
  cases ended with
  | notInitialized => exact .quiet .failed rfl fun _ => .refl _
  | otherLedger => exact .quiet .failed rfl fun _ => .refl _
  | rejected => exact .quiet .rejected rfl fun _ => .refl _
  | accepted bound same trader priced priceFits latest claimable =>
    exact .accepted bound same trader priced priceFits latest claimable

theorem tick_step_end (exchange : Exchange) (height : UInt64) (budget : Option Budget) :
    StepEnd exchange (.tick height budget) (exchange.step (.tick height budget)).1
      (exchange.step (.tick height budget)).2 := by
  simp only [step]
  have ended := Market.tick_end exchange.market exchange.ledgers height budget
  generalize exchange.market.tick exchange.ledgers height budget = ticked at ended
  cases ended with
  | unplanned => exact .quiet .failed rfl fun _ => .refl _
  | early => exact .quiet .early rfl fun _ => .refl _
  | cleared found run => exact .cleared found run
  | undone found run => exact .undone found run
  | stuck found run => exact .stuck found run

/-- Every step ends in one of the ways there are. -/
theorem step_end (exchange : Exchange) (step : Step) :
    StepEnd exchange step (exchange.step step).1 (exchange.step step).2 := by
  cases step with
  | issue side caller recipient amount => exact issue_end exchange side caller recipient amount
  | send side sender recipient amount => exact send_end exchange side sender recipient amount
  | transfer side sender recipient amount =>
    exact transfer_end exchange side sender recipient amount
  | refuse side recipient count => exact .quiet .refuse rfl (alike_set (.refl _))
  | place side caller price => exact place_step_end exchange side caller price
  | tick height budget => exact tick_step_end exchange height budget

end StepEnd

/-- What stays the same of an exchange from an earlier state to a later one. -/
structure Follows (earlier later : Exchange) : Prop where
  address : later.market.address = earlier.market.address
  currencies : later.market.book.map Book.currencies = earlier.market.book.map Book.currencies
  ledgers : ∀ side,
    (later.ledgers.get side).token.address = (earlier.ledgers.get side).token.address
  claims : earlier.market.claims.Extends later.market.claims

theorem Follows.refl (exchange : Exchange) : exchange.Follows exchange :=
  ⟨rfl, rfl, fun _ => rfl, .refl _⟩

theorem Follows.trans {first middle last : Exchange} (left : first.Follows middle)
    (right : middle.Follows last) : first.Follows last where
  address := right.address.trans left.address
  currencies := right.currencies.trans left.currencies
  ledgers side := (right.ledgers side).trans (left.ledgers side)
  claims := left.claims.trans right.claims

theorem follows_step (exchange : Exchange) (step : Step) :
    exchange.Follows (exchange.step step).2 := by
  have ended := step_end exchange step
  generalize (exchange.step step).2 = next at ended
  generalize (exchange.step step).1 = answer at ended
  cases ended with
  | quiet _ market alike =>
    refine ⟨?_, ?_, fun side => (alike side).address, ?_⟩
    · rw [market]
    · rw [market]
    · rw [market]
      exact .refl _
  | issued granted =>
    refine ⟨rfl, rfl, ?_, .refl _⟩
    intro other
    simp only [setToken, Sided.get_set]
    split
    case isTrue same =>
      subst same
      exact (Token.issue_granted granted).1
    case isFalse => rfl
  | sent _ _ moved =>
    refine ⟨rfl, rfl, ?_, .refl _⟩
    intro other
    simp only [Sided.get_set]
    split
    case isTrue same =>
      subst same
      rw [moved]
      exact Token.address_move _ _ _ _
    case isFalse => rfl
  | accepted bound _ _ _ _ _ claimable =>
    refine ⟨rfl, ?_, fun _ => rfl, claimable.extends⟩
    rw [bound]
    rfl
  | cleared found run =>
    refine ⟨rfl, ?_, fun side => (Payout.frame_of_payAll run rfl side).1, .refl _⟩
    obtain ⟨book, plans⟩ := Market.planned found
    simp only [Market.commit, plans.bound, Option.map_some]
  | undone _ run =>
    exact ⟨rfl, rfl, fun side => (Payout.frame_of_payAll run rfl side).1,
      Claims.extends_retireReturned _ _ _⟩
  | stuck _ run => exact ⟨rfl, rfl, fun side => (Payout.frame_of_payAll run rfl side).1, .refl _⟩

/-- Over a run, the names stay and claims are only added. -/
theorem follows_run (exchange : Exchange) (steps : List Step) :
    exchange.Follows (exchange.run steps).2 := by
  induction steps generalizing exchange with
  | nil => exact .refl exchange
  | cons first rest ih => exact (follows_step exchange first).trans (ih (exchange.step first).2)

end Exchange

end DoubleAuction
