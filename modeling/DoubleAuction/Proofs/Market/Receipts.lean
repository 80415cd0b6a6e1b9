import DoubleAuction.Proofs.Market.Ticks

/-! # What a tick moves

A tick that clears moves what its fills say and nothing else. Every address receives the sum of what
the fills pay to it, and the market gives the sum of what the fills pay at all; a market that trades
with itself is on both sides of that account. The book becomes what clearing leaves of it, and the
volumes count what the sellers were paid (`Market.CarriedOut`). A tick before the first clearing
moves nothing.
-/

namespace DoubleAuction.Market

/-- A clearing of a book within a budget was carried out as reported. -/
structure CarriedOut (market : Market) (book : Book) (ledgers : Sided RefusingToken)
    (budget : Budget) (report : TickReport) (ticked : Ticked RefusingToken) : Prop where
  fills : (clear book.heaps market.address budget).result = .ok report.fills
  moreWork : report.moreWork = (clear book.heaps market.address budget).moreWork
  /-- Nothing of the market changes but the heaps and the volumes. -/
  committed : ticked.market = { market with
    book := some { book with heaps := (clear book.heaps market.address budget).book }
    volume := ticked.market.volume
    volumeEpoch := report.epoch }
  heaps : ∀ side,
    ((clear book.heaps market.address budget).book.get side).owner = (book.heaps.get side).owner ∧
      ((clear book.heaps market.address budget).book.get side).id = (book.heaps.get side).id
  /-- What everyone receives, and what the market gives, is what changes of the balances. -/
  balances : ∀ side owner,
    ((ticked.ledgers.get side).token.balance owner).toNat +
        (if owner = market.address then owed report.fills side else 0) =
      ((ledgers.get side).token.balance owner).toNat + receivedBy report.fills side owner
  volume : report.volume.toNat = owed report.fills .buy
  carried : ticked.market.volume.toNat =
    (market.carriedVolume report.epoch).toNat + report.volume.toNat
  verifies : report.verifies = true

variable {market : Market} {book : Book} {ledgers : Sided RefusingToken} {height : UInt64}
  {budget : Option Budget}

/-- A plan whose payouts were all made was carried out as reported. -/
theorem carriedOut_of_paid {plan : Plan} {last : Sided RefusingToken}
    (plans : Planned market ledgers height budget book plan)
    (run : Payout.payAll market.address ledgers plan.payouts = .paid last) :
    CarriedOut market book ledgers (budget.getD market.defaultBudget) plan.report
      ⟨.ok plan.report, market.commit plan, last⟩ := by
  obtain ⟨tickVolume, volume⟩ := addVolume_eq_ok plans.volume
  have cleared := clear_of_owned plans.owned (budget.getD market.defaultBudget)
  constructor
  · exact plans.result
  · rw [cleared]
    exact plans.moreWork
  · rw [cleared, ← plans.heaps]
    simp only [commit, plans.bound, Option.map_some, Plan.report]
  · rw [cleared, ← plans.heaps]
    exact plans.path.frame
  · intro side owner
    have moved := Payout.balance_of_paid run side owner
    rwa [Plan.payouts, totalOn_flatMap_payouts, totalTo_flatMap_payouts] at moved
  · exact tickVolume
  · exact volume.trans (congrArg _ tickVolume.symm)
  · exact decide_eq_true rfl

/-- A tick that succeeds carries out a clearing of the book, or changes nothing at all when the
market does not clear yet. -/
theorem tick_moves_fills (bound : market.book = some book) (ledgers : Sided RefusingToken)
    (height : UInt64) (budget : Option Budget) {report : TickReport}
    (ended : (market.tick ledgers height budget).result = .ok report) :
    report.gateOpen = market.gateOpen height ∧
      (report.gateOpen = true →
        CarriedOut market book ledgers (budget.getD market.defaultBudget) report
          (market.tick ledgers height budget)) ∧
      (report.gateOpen = false →
        (market.tick ledgers height budget).market = market ∧
          (market.tick ledgers height budget).ledgers = ledgers) := by
  refine ⟨gateOpen_of_ok bound ended, ?_⟩
  rcases tick_of_ok ended with ⟨_, rfl, ticked⟩ | ⟨plan, last, found, run, rfl, ticked⟩
  · rw [ticked]
    exact ⟨nofun, fun _ => ⟨rfl, rfl⟩⟩
  · rw [ticked]
    exact ⟨fun _ => carriedOut_of_paid (planned_of_bound bound found) run, nofun⟩

/-- A market that rests a bid of its own, which crosses an ask. -/
def selfBidding : Market where
  address := ⟨0x4d⟩
  config := {}
  anchor := 0
  book := some ⟨
    ⟨⟨⟨0xb1⟩, ⟨0x4d⟩, #[(Order.mk .buy 1200 1000 ⟨0x4d⟩).key]⟩,
      ⟨⟨0x51⟩, ⟨0x4d⟩, #[(Order.mk .sell 800 1000000 ⟨0xa2⟩).key]⟩⟩,
    ⟨⟨0xc1⟩, ⟨0xc2⟩⟩⟩
  claims := .empty
  volume := 0
  volumeEpoch := ⟨0⟩

/-- The ledgers on which it holds its escrow, one of them with a refusal that does not matter. -/
def selfBiddingLedgers : Sided RefusingToken where
  buy := .ofToken ((Token.create ⟨0xc1⟩ ⟨0x15⟩).setBalance ⟨0x4d⟩ 1000)
  sell := ⟨(Token.create ⟨0xc2⟩ ⟨0x15⟩).setBalance ⟨0x4d⟩ 1000000, [⟨⟨0xa0⟩, 1⟩]⟩

/-- The match of the two orders, which pays the seller 833 and the market 800000. -/
def selfBiddingFill : Fill :=
  ⟨.bothFilled, ⟨0x4d⟩, ⟨0xa2⟩, 1200, 800, 833, 800000, 0, 0, 167, 200000⟩

/-- The market pays itself out of the escrow of the ask, and so holds what it held. -/
theorem selfBidding_keeps_balance :
    ∃ report, (selfBidding.tick selfBiddingLedgers 100 none).result = .ok report ∧
      report.fills = [selfBiddingFill] ∧
      (((selfBidding.tick selfBiddingLedgers 100 none).ledgers.get .sell).token.balance
        selfBidding.address).toNat = 1000000 := by
  have unfailed : (selfBidding.tick selfBiddingLedgers 100 none).error? = none := by
    decide +kernel
  obtain ⟨report, ended⟩ := Ticked.error?_eq_none_iff.mp unfailed
  obtain ⟨gate, carriedOut, _⟩ := tick_moves_fills rfl selfBiddingLedgers 100 none ended
  have carried := carriedOut (gate.trans (by decide))
  have fills : report.fills = [selfBiddingFill] :=
    (Clearing.result_eq_ok carried.fills).trans (by decide +kernel)
  refine ⟨report, ended, fills, ?_⟩
  have account := carried.balances .sell selfBidding.address
  have owes : owed [selfBiddingFill] .sell = 800000 := by decide
  have receives : receivedBy [selfBiddingFill] .sell selfBidding.address = 800000 := by decide
  have held : ((selfBiddingLedgers.get .sell).token.balance selfBidding.address).toNat =
      1000000 := by decide
  rw [if_pos rfl, fills] at account
  omega

end DoubleAuction.Market
