import DoubleAuction.Proofs.Exchange.Escrow
import DoubleAuction.Proofs.Exchange.Returns

/-! # Deposits that were pending when a tick failed

A deposit that no order has claimed yet is only known as the latest transfer of its ledger. A failed
tick whose payouts all came back leaves a ledger on which it paid nobody as it was, and an order
there gets the answer that it would have had before. On a ledger to which payouts came back the
latest transfer is a return that is retired, so every order is rejected until someone pays again,
also one that a pending deposit would have funded (`place_after_refused_tick`).
-/

namespace DoubleAuction

/-- What can be claimed on a ledger depends on its name, its latest transfer, and the last number
used there. -/
theorem Claims.inspect_alike {claims other : Claims} {ledger later : RefusingToken}
    (name : later.token.address = ledger.token.address)
    (latest : later.token.lastSuccess = ledger.token.lastSuccess)
    (claimed : other.lastClaimed ledger.token.address = claims.lastClaimed ledger.token.address)
    (depositor recipient : Address) :
    other.inspect later depositor recipient = claims.inspect ledger depositor recipient := by
  have used (seq : UInt64) :
      other.isUsed later.token.address seq = claims.isUsed ledger.token.address seq := by
    rw [isUsed, isUsed, name, claimed]
  simp only [inspect, Ledger.lastTransfer, Ledger.address, latest, used]

namespace Market

/-- The answer to a trader whose payout came back, and to all others, until someone pays again. -/
def verdictOnReturn (payout : Payout) (caller : Address) (price : UInt64) : Rejection :=
  if caller = .zero then .zeroTrader
  else if price = 0 ∨ fieldLimit ≤ price.toNat then .invalidPrice
  else if payout.payee ≠ caller then .depositFromOther
  else .alreadyClaimed

/-- A used return of a payout funds no order. -/
theorem judge_of_return {market : Market} {ledger : RefusingToken} {payout : Payout} {seq : UInt64}
    (latest : ledger.token.lastSuccess =
      some ⟨seq, payout.payee, market.address, payout.units, true⟩)
    (used : market.claims.isUsed ledger.token.address seq = true) (caller : Address)
    (price : UInt64) :
    market.judge ledger caller price = .error (verdictOnReturn payout caller price) := by
  unfold judge verdictOnReturn
  split
  case isTrue => rfl
  case isFalse =>
    split
    case isTrue => rfl
    case isFalse =>
      apply Claims.claim_eq_error_iff.mpr
      simp only [Claims.inspect, Ledger.lastTransfer, Ledger.address, latest, used]
      by_cases theirs : payout.payee = caller
      · simp [theirs]
      · simp [theirs]

section Tick

variable {market : Market} {book : Book} {ledgers : Sided RefusingToken} {height : UInt64}
  {budget : Option Budget} {error : Error}

/-- A failed tick changes nothing of the market but its claims. -/
theorem market_of_failed (failed : (market.tick ledgers height budget).result = .error error) :
    (market.tick ledgers height budget).market.book = market.book ∧
      (market.tick ledgers height budget).market.address = market.address := by
  have ended := tick_end market ledgers height budget
  generalize market.tick ledgers height budget = ticked at ended failed
  cases ended with
  | unplanned => exact ⟨rfl, rfl⟩
  | early => cases failed
  | cleared => cases failed
  | undone => exact ⟨rfl, rfl⟩
  | stuck => exact ⟨rfl, rfl⟩

/-- Where a failed tick took no payout back, neither the latest transfer nor the last number used
has changed. -/
theorem pending_of_failed (bound : market.book = some book)
    (distinct : book.currencies.buy ≠ book.currencies.sell)
    (failed : (market.tick ledgers height budget).result = .error error)
    (returnable : error.isPayoutNotReturned = false) {side : Side}
    (unpaid : ∀ payout ∈ market.sentBack ledgers height budget, payout.side ≠ side) :
    ((market.tick ledgers height budget).ledgers.get side).token.lastSuccess =
        (ledgers.get side).token.lastSuccess ∧
      (market.tick ledgers height budget).market.claims.lastClaimed
          (ledgers.get side).token.address =
        market.claims.lastClaimed (ledgers.get side).token.address := by
  have ended := tick_end market ledgers height budget
  generalize market.tick ledgers height budget = ticked at ended failed
  cases ended with
  | unplanned => exact ⟨rfl, rfl⟩
  | early => cases failed
  | cleared => cases failed
  | stuck =>
    cases failed
    cases returnable
  | @undone plan last refused returned found run =>
    rw [sentBack_of_found found, Payout.sentBack_of_undone run] at unpaid
    have apart := distinct_of_found bound distinct found
    constructor
    · have none : returned.find? (·.side = side) = none :=
        List.find?_eq_none.mpr fun payout member => by simpa using unpaid payout member
      have latest := Payout.lastSuccess_of_undone run side
      rwa [none] at latest
    · have restored : Restored market ledgers returned ⟨.error error,
          { market with claims := market.claims.retireReturned last returned }, last⟩ :=
        restored_of_undone apart run
      apply restored.untouched
      rintro other ⟨payout, member, rfl⟩
      have elsewhere := unpaid payout member
      cases side with
      | buy =>
        cases paid : payout.side with
        | buy => exact absurd paid elsewhere
        | sell => exact Ne.symm apart
      | sell =>
        cases paid : payout.side with
        | buy => exact apart
        | sell => exact absurd paid elsewhere

end Tick

end Market

namespace Exchange

theorem tick_failed {exchange : Exchange} {height : UInt64} {budget : Option Budget} {error : Error}
    (failed : (exchange.step (.tick height budget)).1 = .failed error) :
    (exchange.market.tick exchange.ledgers height budget).result = .error error := by
  simp only [step] at failed
  split at failed
  case h_1 => cases failed
  case h_2 ended =>
    cases failed
    exact ended

/-- The answer to an order hangs on the book, on the names, on the latest transfer of its ledger and
on the last number used there. -/
theorem answer_place_congr {exchange later : Exchange} {side : Side}
    (book : later.market.book = exchange.market.book)
    (address : later.market.address = exchange.market.address)
    (name : (later.ledgers.get side).token.address = (exchange.ledgers.get side).token.address)
    (latest : (later.ledgers.get side).token.lastSuccess =
      (exchange.ledgers.get side).token.lastSuccess)
    (claimed : later.market.claims.lastClaimed (exchange.ledgers.get side).token.address =
      exchange.market.claims.lastClaimed (exchange.ledgers.get side).token.address)
    (caller : Address) (price : UInt64) :
    (later.step (.place side caller price)).1 = (exchange.step (.place side caller price)).1 := by
  have offered := Claims.inspect_alike name latest claimed caller exchange.market.address
  simp only [step, Market.place, book, checkLedger, Ledger.address, name, Market.judge, address,
    Claims.claim, offered]
  cases exchange.market.book with
  | none => rfl
  | some book =>
    by_cases same : (exchange.ledgers.get side).token.address = book.currencies.get side
    · by_cases zero : caller = .zero
      · simp only [same, zero, ↓reduceIte, bind, Except.bind, pure, Except.pure]
      · by_cases invalid : price = 0 ∨ fieldLimit ≤ price.toNat
        · simp only [same, zero, invalid, ↓reduceIte, bind, Except.bind, pure, Except.pure]
        · simp only [same, zero, invalid, ↓reduceIte, bind, Except.bind, pure, Except.pure]
          cases exchange.market.claims.inspect (exchange.ledgers.get side) caller
            exchange.market.address with
          | error reason => rfl
          | ok claim =>
            cases created : Order.create side price claim.quantity caller with
            | error error => simp only [created]
            | ok order => simp only [created]
    · simp only [same, ↓reduceIte, bind, Except.bind]

theorem answer_place_of_judge {exchange : Exchange} {book : Book} {side : Side} {caller : Address}
    {price : UInt64} {reason : Rejection} (bound : exchange.market.book = some book)
    (name : (exchange.ledgers.get side).token.address = book.currencies.get side)
    (judged : exchange.market.judge (exchange.ledgers.get side) caller price = .error reason) :
    (exchange.step (.place side caller price)).1 = .placed (.rejected reason) := by
  simp only [step, Market.place, bound, checkLedger, Ledger.address, name, judged, ↓reduceIte, bind,
    Except.bind, pure, Except.pure]

/-- After a failed tick whose payouts are all back, an order on a ledger that it did not pay on gets
the answer that it would have had before the tick. On a ledger that payouts came back to, every
order is rejected, whatever deposit was pending there. -/
theorem place_after_refused_tick {exchange : Exchange} {book : Book}
    (bound : exchange.market.book = some book)
    (distinct : book.currencies.buy ≠ book.currencies.sell) {height : UInt64}
    {budget : Option Budget} {error : Error}
    (failed : (exchange.step (.tick height budget)).1 = .failed error)
    (returnable : error.isPayoutNotReturned = false) (side : Side) (caller : Address)
    (price : UInt64) :
    ((exchange.step (.tick height budget)).2.step (.place side caller price)).1 =
      match (exchange.market.sentBack exchange.ledgers height budget).find? (·.side = side) with
      | none => (exchange.step (.place side caller price)).1
      | some payout => .placed (.rejected (Market.verdictOnReturn payout caller price)) := by
  have ended := tick_failed failed
  have names := (follows_step exchange (.tick height budget)).ledgers side
  obtain ⟨book, address⟩ := Market.market_of_failed ended
  split
  case h_1 unpaid =>
    have elsewhere : ∀ payout ∈ exchange.market.sentBack exchange.ledgers height budget,
        payout.side ≠ side := by
      intro payout member
      simpa using List.find?_eq_none.mp unpaid payout member
    obtain ⟨latest, claimed⟩ := Market.pending_of_failed bound distinct ended returnable elsewhere
    exact answer_place_congr book address names latest claimed caller price
  case h_2 payout first =>
    obtain ⟨seq, latest, used⟩ := Market.lastSuccess_of_first ended first
    have stillUsed := used returnable
    rw [← address] at latest
    rw [← names] at stillUsed
    obtain ⟨plan, found⟩ := Market.found_of_sentBack (Payout.of_find?_side first).1
    obtain ⟨kept, stillBound, currency⟩ :=
      book_of_follows (follows_step exchange (.tick height budget)) found
    exact answer_place_of_judge stillBound (currency side)
      (Market.judge_of_return latest stillUsed caller price)

/-- An exchange on which a bid and an ask cross and, on each side, one more deposit is pending. The
second ledger will refuse to pay the bidder. -/
def withPending : Exchange :=
  (fresh.run (funded ++
    [.issue .buy ⟨0x15⟩ ⟨0xa5⟩ 500, .send .buy ⟨0xa5⟩ ⟨0x4d⟩ 500,
      .issue .sell ⟨0x15⟩ ⟨0xa6⟩ 700000, .send .sell ⟨0xa6⟩ ⟨0x4d⟩ 700000,
      .refuse .sell ⟨0xa0⟩ 1])).2

/-- The seller is paid, the bidder is not. The seller's payout comes back, and the bid that was
pending on that ledger can no longer be placed. -/
theorem withPending_bid_lost :
    (withPending.step (.place .buy ⟨0xa5⟩ 1300)).1 =
        .placed (.accepted ⟨.buy, 1300, 500, ⟨0xa5⟩⟩ (Order.mk .buy 1300 500 ⟨0xa5⟩).key) ∧
      (withPending.step (.tick 100 none)).1 =
        .failed (.transferRejected ⟨0xc2⟩ ⟨0xa0⟩ 800000) ∧
      ((withPending.step (.tick 100 none)).2.step (.place .buy ⟨0xa5⟩ 1300)).1 =
        .placed (.rejected .depositFromOther) := by
  decide +kernel

/-- The ask that was pending on the other ledger is still accepted. -/
theorem withPending_ask_kept :
    ((withPending.step (.tick 100 none)).2.step (.place .sell ⟨0xa6⟩ 900)).1 =
        .placed (.accepted ⟨.sell, 900, 700000, ⟨0xa6⟩⟩ (Order.mk .sell 900 700000 ⟨0xa6⟩).key) ∧
      ∀ caller price,
        ((withPending.step (.tick 100 none)).2.step (.place .buy caller price)).1 =
          .placed (.rejected (Market.verdictOnReturn ⟨.buy, ⟨0xa2⟩, 833⟩ caller price)) := by
  have bound : withPending.market.book.isSome = true := by decide +kernel
  obtain ⟨book, bound⟩ := Option.isSome_iff_exists.mp bound
  have distinct : book.currencies.buy ≠ book.currencies.sell := by
    have apart : ∀ book ∈ withPending.market.book,
        book.currencies.buy ≠ book.currencies.sell := by
      decide +kernel
    exact apart book bound
  have failed : (withPending.step (.tick 100 none)).1 =
      .failed (.transferRejected ⟨0xc2⟩ ⟨0xa0⟩ 800000) := by
    decide +kernel
  have after := place_after_refused_tick bound distinct failed rfl
  have sentBack : withPending.market.sentBack withPending.ledgers 100 none =
      [⟨.buy, ⟨0xa2⟩, 833⟩] := by
    decide +kernel
  rw [sentBack] at after
  constructor
  · rw [after .sell ⟨0xa6⟩ 900]
    decide +kernel
  · intro caller price
    exact after .buy caller price

end Exchange

end DoubleAuction
