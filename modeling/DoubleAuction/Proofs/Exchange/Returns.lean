import DoubleAuction.Proofs.Exchange.Steps
import DoubleAuction.Proofs.Market.Rollback

/-! # Orders on returned payouts

A payout that comes back to the market is recorded like a deposit by its payee. When all payouts of
a failed tick are back, their ledgers are retired and no order can rest on them. When one of them
cannot be returned, nothing is retired, and the payee of the payout that came back last can rest an
order on money that other orders still escrow (`Exchange.Reusable`, `Exchange.place_on_return`).
-/

namespace DoubleAuction.Exchange

/-- When the return of a payout passes for a deposit after a failed tick: another payout could not
be returned, and the payee asks for an order that the amount can fund, for the first time. -/
structure Reusable (error : Error) (payout : Payout) (used : Bool) (caller : Address)
    (price : UInt64) : Prop where
  stuck : error.isPayoutNotReturned = true
  payee : caller = payout.payee
  trader : caller ≠ .zero
  priced : price ≠ 0
  priceFits : price.toNat < fieldLimit
  amountFits : payout.amount.toNat < fieldLimit
  unused : used = false

/-- The return of a payout is a deposit that its payee may claim, unless it is used or does not fit
the quantity field. -/
theorem claimable_return_iff {claims : Claims} {ledger caller : Address} {payout : Payout}
    {seq : UInt64} (nonzero : payout.amount ≠ 0) (market : Address) :
    claims.Claimable ledger caller market ⟨seq, payout.payee, market, payout.units, true⟩ ↔
      caller = payout.payee ∧ payout.amount.toNat < fieldLimit ∧
        claims.isUsed ledger seq = false := by
  constructor
  · rintro ⟨_, sender, _, unused, _, fits⟩
    rw [Payout.units_toNat] at fits
    exact ⟨sender.symm, fits, unused⟩
  · rintro ⟨rfl, fits, unused⟩
    have positive : payout.units ≠ 0 := by
      intro zero
      apply nonzero
      apply UInt64.toNat_inj.mp
      rw [← Payout.units_toNat, zero]
      rfl
    exact ⟨rfl, rfl, rfl, unused, positive, by rwa [Payout.units_toNat]⟩

/-- When returns are retired unless a payout is stuck, an order on a return is `Reusable` exactly if
its trader and price are valid and the return can be claimed. -/
theorem reusable_iff {error : Error} {claims : Claims} {ledger caller : Address} {payout : Payout}
    {price seq : UInt64} (nonzero : payout.amount ≠ 0)
    (retired : error.isPayoutNotReturned = false → claims.isUsed ledger seq = true)
    (market : Address) :
    Reusable error payout (claims.isUsed ledger seq) caller price ↔
      (caller ≠ .zero ∧ price ≠ 0 ∧ price.toNat < fieldLimit) ∧
        claims.Claimable ledger caller market ⟨seq, payout.payee, market, payout.units, true⟩ := by
  rw [claimable_return_iff nonzero]
  constructor
  · rintro ⟨_, payee, trader, priced, priceFits, amountFits, unused⟩
    exact ⟨⟨trader, priced, priceFits⟩, payee, amountFits, unused⟩
  · rintro ⟨⟨trader, priced, priceFits⟩, payee, amountFits, unused⟩
    have stuck : error.isPayoutNotReturned = true := by
      rw [← Bool.not_eq_false]
      intro kept
      rw [retired kept] at unused
      cases unused
    exact ⟨stuck, payee, trader, priced, priceFits, amountFits, unused⟩

section Later

variable {exchange later : Exchange} {height : UInt64} {budget : Option Budget} {side : Side}

/-- A market that had a plan still has a book on the same ledgers at any later time. -/
theorem book_of_follows {plan : Plan} (follows : exchange.Follows later)
    (found : exchange.market.plan? exchange.ledgers height budget = .ok (some plan)) :
    ∃ book, later.market.book = some book ∧
      ∀ side, (later.ledgers.get side).token.address = book.currencies.get side := by
  obtain ⟨old, plans⟩ := Market.planned found
  have currencies := follows.currencies
  rw [plans.bound, Option.map_some, Option.map_eq_some_iff] at currencies
  obtain ⟨book, bound, same⟩ := currencies
  refine ⟨book, bound, ?_⟩
  intro side
  rw [follows.ledgers, plans.addresses, same]

/-- While the latest transfer of a ledger is the return of a payout of a failed tick, an order is
accepted there if the return is `Reusable`, and rejected without a change to the market if not. -/
theorem place_on_return {error : Error}
    (failed : (exchange.market.tick exchange.ledgers height budget).result = .error error)
    (back : ∃ payout ∈ exchange.market.sentBack exchange.ledgers height budget,
      payout.side = side)
    {steps : List Step} (ran : ((exchange.step (.tick height budget)).2.run steps).2 = later)
    (latest : (later.ledgers.get side).token.lastSuccess =
      ((exchange.step (.tick height budget)).2.ledgers.get side).token.lastSuccess) :
    ∃ payout ∈ exchange.market.sentBack exchange.ledgers height budget, payout.side = side ∧
      ∃ seq, (later.ledgers.get side).token.lastSuccess =
          some ⟨seq, payout.payee, exchange.market.address, payout.units, true⟩ ∧
        ∀ caller price,
          let used := later.market.claims.isUsed (later.ledgers.get side).token.address seq
          let placed := later.market.place side (later.ledgers.get side) caller price
          (Reusable error payout used caller price ∧
            ∃ order market, placed = .ok (.accepted order order.key, market) ∧
              order.quantity = payout.amount) ∨
          (¬ Reusable error payout used caller price ∧
            ∃ reason, placed = .ok (.rejected reason, later.market)) := by
  obtain ⟨payout, member, here, seq, latestThen, retired⟩ :=
    Market.lastSuccess_of_sentBack failed back
  have nonzero := Market.amount_of_sentBack member
  obtain ⟨plan, found⟩ := Market.found_of_sentBack member
  have ticked := follows_step exchange (.tick height budget)
  have since : (exchange.step (.tick height budget)).2.Follows later := by
    rw [← ran]
    exact follows_run _ steps
  have follows := ticked.trans since
  have latestNow := latest.trans latestThen
  refine ⟨payout, member, here, seq, latestNow, ?_⟩
  intro caller price
  rw [← follows.address] at latestNow
  obtain ⟨book, bound, names⟩ := book_of_follows follows found
  -- What the failed tick retired is still used.
  have retiredNow : error.isPayoutNotReturned = false →
      later.market.claims.isUsed (later.ledgers.get side).token.address seq = true := by
    intro kept
    rw [follows.ledgers]
    exact since.claims _ _ (retired kept)
  have transfer : Ledger.lastTransfer (later.ledgers.get side) = _ := latestNow
  dsimp only
  rw [reusable_iff nonzero retiredNow later.market.address]
  rcases Market.place_on_latest bound (names side) transfer caller price with
    ⟨good, market, accepted⟩ | rejected
  · refine .inl ⟨good, _, market, accepted, ?_⟩
    simp only [Market.orderFrom, Payout.units_toNat, UInt64.ofNat_toNat]
  · exact .inr rejected

end Later

section Cases

open Market (crossedMarket halfRefusing)

/-- After a tick whose payouts all came back, the seller cannot order with what came back. -/
theorem crossedMarket_return_rejected :
    ∃ reason, (crossedMarket.tick halfRefusing 100 none).market.place .buy
        ((crossedMarket.tick halfRefusing 100 none).ledgers.get .buy) ⟨0xa2⟩ 700 =
      .ok (.rejected reason, (crossedMarket.tick halfRefusing 100 none).market) := by
  have failed : (crossedMarket.tick halfRefusing 100 none).result =
      .error (.transferRejected ⟨0xc2⟩ ⟨0xa0⟩ 800000) :=
    Ticked.error?_eq_some_iff.mp (by decide +kernel)
  have back : ∃ payout ∈ crossedMarket.sentBack halfRefusing 100 none, payout.side = .buy := by
    decide +kernel
  have ran : ((Exchange.step ⟨crossedMarket, halfRefusing⟩ (.tick 100 none)).2.run []).2 =
      ⟨(crossedMarket.tick halfRefusing 100 none).market,
        (crossedMarket.tick halfRefusing 100 none).ledgers⟩ := rfl
  obtain ⟨payout, _, _, seq, _, placed⟩ := place_on_return failed back ran rfl
  rcases placed ⟨0xa2⟩ 700 with ⟨reusable, _⟩ | ⟨_, rejected⟩
  · cases reusable.stuck
  · exact rejected

/-- An exchange on which two bids cross two asks. The first ledger will refuse to pay the second
seller, and then to take back what the first seller was paid. -/
def twiceRefusing : Exchange where
  market := { crossedMarket with
    book := some ⟨
      ⟨⟨⟨0xb1⟩, ⟨0x4d⟩,
          #[(Order.mk .buy 1400 1000 ⟨0xa1⟩).key, (Order.mk .buy 1200 1000 ⟨0xa0⟩).key]⟩,
        ⟨⟨0x51⟩, ⟨0x4d⟩,
          #[(Order.mk .sell 600 1000000 ⟨0xa3⟩).key, (Order.mk .sell 800 1000000 ⟨0xa2⟩).key]⟩⟩,
      ⟨⟨0xc1⟩, ⟨0xc2⟩⟩⟩ }
  ledgers := {
    buy := ⟨(Token.create ⟨0xc1⟩ ⟨0x15⟩).setBalance ⟨0x4d⟩ 2000, [⟨⟨0xa2⟩, 1⟩, ⟨⟨0x4d⟩, 1⟩]⟩
    sell := .ofToken ((Token.create ⟨0xc2⟩ ⟨0x15⟩).setBalance ⟨0x4d⟩ 2000000) }

/-- The first bidder's payout comes back, the first seller's does not, and the bidder then rests an
order on the amount that came back. -/
theorem twiceRefusing_return_accepted :
    (twiceRefusing.step (.tick 100 none)).1 =
        .failed (.internal (.payoutNotReturned 714 ⟨0xa3⟩ ⟨0xc1⟩)) ∧
      twiceRefusing.market.sentBack twiceRefusing.ledgers 100 none = [⟨.sell, ⟨0xa1⟩, 600000⟩] ∧
      ((twiceRefusing.step (.tick 100 none)).2.ledgers.get .sell).token.lastSuccess =
        some ⟨2, ⟨0xa1⟩, ⟨0x4d⟩, 600000, true⟩ ∧
      ((twiceRefusing.step (.tick 100 none)).2.step (.place .sell ⟨0xa1⟩ 700)).1 =
        .placed (.accepted ⟨.sell, 700, 600000, ⟨0xa1⟩⟩
          (Order.mk .sell 700 600000 ⟨0xa1⟩).key) := by
  decide +kernel

end Cases

end DoubleAuction.Exchange
