import DoubleAuction.Proofs.Market.Admissions
import DoubleAuction.Proofs.Market.Ticks

/-! # Failed ticks

A tick that fails leaves the market as it was, except for claims. Unless a payout could not be
returned, everyone holds what they held before, and a ledger on which payouts were made and taken
back has its latest transfer retired: that transfer is a return and looks like a deposit
(`Market.Restored`, `Market.tick_error_restores`).
-/

namespace DoubleAuction.Market

/-- What a failed tick leaves behind when every payout it made is back. -/
structure Restored (market : Market) (ledgers : Sided RefusingToken) (returned : List Payout)
    (ended : Ticked RefusingToken) : Prop where
  balances : ∀ side owner,
    (ended.ledgers.get side).token.balance owner = (ledgers.get side).token.balance owner
  /-- Where payouts came back, the entry becomes the larger of its old value and the number of the
  latest transfer. -/
  retired : ∀ side, (∃ payout ∈ returned, payout.side = side) →
    ∃ transfer, (ended.ledgers.get side).token.lastSuccess = some transfer ∧
      ended.market.claims.lastClaimed (ledgers.get side).token.address =
        some (max ((market.claims.lastClaimed (ledgers.get side).token.address).getD 0)
          transfer.seq)
  untouched : ∀ ledger,
    (∀ side, (∃ payout ∈ returned, payout.side = side) →
      (ledgers.get side).token.address ≠ ledger) →
    ended.market.claims.lastClaimed ledger = market.claims.lastClaimed ledger

section Tick

variable {market : Market} {book : Book} {ledgers : Sided RefusingToken} {height : UInt64}
  {budget : Option Budget} {plan : Plan}

theorem sentBack_of_found (found : market.plan? ledgers height budget = .ok (some plan)) :
    market.sentBack ledgers height budget =
      Payout.sentBack market.address ledgers plan.payouts := by
  simp only [sentBack, found]

theorem distinct_of_found (bound : market.book = some book)
    (distinct : book.currencies.buy ≠ book.currencies.sell)
    (found : market.plan? ledgers height budget = .ok (some plan)) :
    (ledgers.get .buy).token.address ≠ (ledgers.get .sell).token.address := by
  have plans := planned_of_bound bound found
  rw [plans.addresses, plans.addresses]
  exact distinct

/-- Only a tick with a plan sends payouts back. -/
theorem found_of_sentBack {payout : Payout}
    (back : payout ∈ market.sentBack ledgers height budget) :
    ∃ plan, market.plan? ledgers height budget = .ok (some plan) := by
  unfold sentBack at back
  split at back
  case h_1 plan found => exact ⟨plan, found⟩
  case h_2 => cases back

theorem amount_of_sentBack {payout : Payout}
    (back : payout ∈ market.sentBack ledgers height budget) : payout.amount ≠ 0 := by
  obtain ⟨plan, found⟩ := found_of_sentBack back
  rw [sentBack_of_found found] at back
  obtain ⟨fill, _, member⟩ :=
    List.mem_flatMap.mp (Payout.sentBack_subset market.address ledgers plan.payouts back)
  exact (Fill.mem_payouts member).1

/-- After a failed tick the latest transfer on a ledger to which payouts came back is the return of
the first of them, and it is used unless a payout could not be returned. -/
theorem lastSuccess_of_first {error : Error}
    (failed : (market.tick ledgers height budget).result = .error error) {side : Side}
    {payout : Payout}
    (first : (market.sentBack ledgers height budget).find? (·.side = side) = some payout) :
    ∃ seq, ((market.tick ledgers height budget).ledgers.get side).token.lastSuccess =
        some ⟨seq, payout.payee, market.address, payout.units, true⟩ ∧
      (error.isPayoutNotReturned = false →
        (market.tick ledgers height budget).market.claims.isUsed
          (ledgers.get side).token.address seq = true) := by
  obtain ⟨plan, found⟩ := found_of_sentBack (Payout.of_find?_side first).1
  rw [sentBack_of_found found] at first
  have ended := tick_end market ledgers height budget
  generalize market.tick ledgers height budget = ticked at ended failed
  cases ended with
  | unplanned unplanned =>
    rw [unplanned] at found
    cases found
  | early => cases failed
  | cleared => cases failed
  | @undone _ last refused returned same run =>
    obtain rfl := Option.some.inj (Except.ok.inj (found.symm.trans same))
    rw [Payout.sentBack_of_undone run] at first
    have latest := Payout.lastSuccess_of_undone run side
    rw [first] at latest
    obtain ⟨seq, latest⟩ := latest
    have transfer : Ledger.lastTransfer (last.get side) = _ := latest
    refine ⟨seq, latest, ?_⟩
    intro _
    have retired := Claims.isUsed_retireReturned market.claims
      (Payout.any_side_iff.mpr ⟨payout, Payout.of_find?_side first⟩) transfer
    have name : (last.get side).token.address = (ledgers.get side).token.address :=
      (Payout.frame_of_payAll run rfl side).1
    rwa [← name]
  | stuck same run =>
    obtain rfl := Option.some.inj (Except.ok.inj (found.symm.trans same))
    obtain ⟨seq, latest⟩ := Payout.lastSuccess_of_stuck run first
    refine ⟨seq, latest, ?_⟩
    intro returnable
    cases failed
    cases returnable

/-- After a failed tick the latest transfer on a ledger to which payouts came back is a return, and
it is used unless a payout could not be returned. -/
theorem lastSuccess_of_sentBack {error : Error}
    (failed : (market.tick ledgers height budget).result = .error error) {side : Side}
    (back : ∃ payout ∈ market.sentBack ledgers height budget, payout.side = side) :
    ∃ payout ∈ market.sentBack ledgers height budget, payout.side = side ∧ ∃ seq,
      ((market.tick ledgers height budget).ledgers.get side).token.lastSuccess =
          some ⟨seq, payout.payee, market.address, payout.units, true⟩ ∧
        (error.isPayoutNotReturned = false →
          (market.tick ledgers height budget).market.claims.isUsed
            (ledgers.get side).token.address seq = true) := by
  obtain ⟨payout, first⟩ := Payout.find?_side back
  obtain ⟨member, here⟩ := Payout.of_find?_side first
  exact ⟨payout, member, here, lastSuccess_of_first failed first⟩

/-- An undone run of payouts is retired on every ledger to which payouts came back. -/
theorem restored_of_undone {last : Sided RefusingToken} {refused : Payout} {returned : List Payout}
    {error : Error}
    (distinct : (ledgers.get .buy).token.address ≠ (ledgers.get .sell).token.address)
    {payouts : List Payout}
    (run : Payout.payAll market.address ledgers payouts = .undone last refused returned) :
    Restored market ledgers returned ⟨.error error,
      { market with claims := market.claims.retireReturned last returned }, last⟩ := by
  have names (side : Side) : Ledger.address (last.get side) = (ledgers.get side).token.address :=
    (Payout.frame_of_payAll run rfl side).1
  have apart : Ledger.address (last.get .buy) ≠ Ledger.address (last.get .sell) := by
    rw [names, names]
    exact distinct
  constructor
  · exact Payout.balance_of_undone run
  · intro side back
    obtain ⟨payout, first⟩ := Payout.find?_side back
    have latest := Payout.lastSuccess_of_undone run side
    rw [first] at latest
    obtain ⟨seq, latest⟩ := latest
    have transfer : Ledger.lastTransfer (last.get side) = _ := latest
    refine ⟨_, latest, ?_⟩
    have retired := Claims.lastClaimed_retireReturned market.claims apart returned side
    simp only [Claims.retireOn, Payout.any_side_iff.mpr back, ↓reduceIte,
      Claims.lastClaimed_retireLatest, transfer] at retired
    rwa [names] at retired
  · intro ledger elsewhere
    apply Claims.lastClaimed_retireReturned_of_ne market.claims
    intro side back
    rw [names]
    exact elsewhere side (Payout.any_side_iff.mp back)

/-- A failing tick is rolled back: only claims may differ, and unless a payout could not be
returned, all balances are restored and only the ledgers to which payouts came back are retired. -/
theorem tick_error_restores (bound : market.book = some book)
    (distinct : book.currencies.buy ≠ book.currencies.sell) (ledgers : Sided RefusingToken)
    (height : UInt64) (budget : Option Budget) {error : Error}
    (failed : (market.tick ledgers height budget).result = .error error) :
    (market.tick ledgers height budget).market =
        { market with claims := (market.tick ledgers height budget).market.claims } ∧
      (error.isPayoutNotReturned = false →
        Restored market ledgers (market.sentBack ledgers height budget)
          (market.tick ledgers height budget)) := by
  have ended := tick_end market ledgers height budget
  generalize market.tick ledgers height budget = ticked at ended failed
  cases ended with
  | unplanned unplanned =>
    constructor
    · rfl
    · intro _
      refine ⟨fun _ _ => rfl, ?_, fun _ _ => rfl⟩
      rintro side ⟨payout, member, _⟩
      simp only [sentBack, unplanned] at member
      cases member
  | early => cases failed
  | cleared => cases failed
  | undone found run =>
    constructor
    · rfl
    · intro _
      rw [sentBack_of_found found, Payout.sentBack_of_undone run]
      exact restored_of_undone (distinct_of_found bound distinct found) run
  | stuck found run =>
    constructor
    · rfl
    · intro returnable
      cases failed
      cases returnable

end Tick

/-- A market on which a bid and an ask cross. -/
def crossedMarket : Market where
  address := ⟨0x4d⟩
  config := {}
  anchor := 0
  book := some ⟨
    ⟨⟨⟨0xb1⟩, ⟨0x4d⟩, #[(Order.mk .buy 1200 1000 ⟨0xa0⟩).key]⟩,
      ⟨⟨0x51⟩, ⟨0x4d⟩, #[(Order.mk .sell 800 1000000 ⟨0xa2⟩).key]⟩⟩,
    ⟨⟨0xc1⟩, ⟨0xc2⟩⟩⟩
  claims := .empty
  volume := 0
  volumeEpoch := ⟨0⟩

/-- Its ledgers, of which the second refuses to pay the bidder. -/
def halfRefusing : Sided RefusingToken where
  buy := .ofToken ((Token.create ⟨0xc1⟩ ⟨0x15⟩).setBalance ⟨0x4d⟩ 1000)
  sell := ⟨(Token.create ⟨0xc2⟩ ⟨0x15⟩).setBalance ⟨0x4d⟩ 1000000, [⟨⟨0xa0⟩, 1⟩]⟩

/-- The seller is paid, the bidder is not, and the seller's payout comes back. -/
theorem crossedMarket_restored :
    crossedMarket.sentBack halfRefusing 100 none = [⟨.buy, ⟨0xa2⟩, 833⟩] ∧
      Restored crossedMarket halfRefusing (crossedMarket.sentBack halfRefusing 100 none)
        (crossedMarket.tick halfRefusing 100 none) := by
  have failed : (crossedMarket.tick halfRefusing 100 none).result =
      .error (.transferRejected ⟨0xc2⟩ ⟨0xa0⟩ 800000) :=
    Ticked.error?_eq_some_iff.mp (by decide +kernel)
  have restored := (tick_error_restores rfl (by decide) halfRefusing 100 none failed).2
  exact ⟨by decide +kernel, restored rfl⟩

end DoubleAuction.Market
