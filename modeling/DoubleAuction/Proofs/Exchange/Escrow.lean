import DoubleAuction.Proofs.Exchange.Accounts
import DoubleAuction.Proofs.Market.BookInvariant

/-! # Escrow over runs

An exchange opens with a new market, two empty heaps and two new tokens (`Exchange.Opening`). From
there on every step keeps the accounts in agreement with the book and the ledgers
(`Exchange.sound_step`, `Exchange.sound_run`), provided that nobody sends in the name of the market
and every payout of a failed tick comes back. In every state that is reached, accepted escrow is
committed, paid or retained, and the market holds what it received less what it paid
(`Exchange.escrow_accounts`).
-/

namespace DoubleAuction

namespace Exchange

/-- An exchange as it opens: a new market that was just given two empty heaps, and a new token under
the name of each of its currencies. -/
inductive Opening : Exchange → Prop
  | intro {address : Address} {config : Config} {anchor : UInt64} {created market : Market}
      {caller : Address} {heaps : Sided KeyHeap} {currencies : Sided Address}
      (new : Market.create address config anchor = .ok created)
      (empty : ∀ side, (heaps.get side).keys = #[])
      (initialised : created.init caller heaps currencies = .ok market)
      (issuers : Sided Address) :
      Opening ⟨market, .ofFn fun side =>
        .ofToken (.create (currencies.get side) (issuers.get side))⟩

/-- Whether a step ended with a payout that could not be returned. -/
def Answer.lostPayout : Answer → Bool
  | .failed error => error.isPayoutNotReturned
  | _ => false

/-- The account of a side after a run. -/
def account (exchange : Exchange) (side : Side) (steps : List Step) : Account :=
  Account.replay exchange.market.address side {} steps (exchange.run steps).1

/-- The accounts of both sides agree with the book and the ledgers. -/
def Sound (exchange : Exchange) (accounts : Side → Account) : Prop :=
  ∃ book, exchange.market.book = some book ∧
    SideInvariants exchange.market book exchange.ledgers accounts

/-- Empty accounts agree with an exchange that has just opened. -/
theorem Opening.sound {exchange : Exchange} (opens : exchange.Opening) :
    exchange.Sound fun _ => {} := by
  obtain ⟨_, empty, initialised, issuers⟩ := opens
  obtain ⟨_, _, rfl⟩ := Market.init_eq_ok initialised
  refine ⟨_, rfl, ?_⟩
  intro side
  have keys := empty side
  simp only [Sided.get_ofFn, RefusingToken.ofToken]
  refine
    { address := rfl
      owned := by rw [Sided.get_map]
      resting := fun key member => ?_
      latest := fun transfer found => ?_
      supply := rfl
      escrow := ?_
      held := rfl
      funded := Nat.le_refl 0 }
  · rw [Sided.get_map, keys] at member
    cases member
  · cases found
  · simp only [Sided.get_map, KeyHeap.committed, keys]
    rfl

/-- Every step keeps the accounts sound, unless it sends in the name of the market or loses a payout
on its way back. -/
theorem sound_step {exchange : Exchange} {accounts : Side → Account}
    (sound : exchange.Sound accounts) (step : Step)
    (outsider : step.sender? ≠ some exchange.market.address)
    (returned : (exchange.step step).1.lostPayout = false) :
    (exchange.step step).2.Sound fun side =>
      (accounts side).record exchange.market.address side step (exchange.step step).1 := by
  obtain ⟨book, bound, invariants⟩ := sound
  have ended := step_end exchange step
  generalize (exchange.step step).2 = next at ended ⊢
  generalize (exchange.step step).1 = answer at ended returned ⊢
  cases ended with
  | quiet quiet market alike =>
    refine ⟨book, market ▸ bound, ?_⟩
    intro side
    simp only [Account.record_of_quiet quiet, market]
    exact (invariants side).alike (alike side)
  | @issued side _ recipient amount _ granted =>
    exact ⟨book, bound, invariants.setLedger side
      (·.issue exchange.market.address recipient amount) ((invariants side).issue granted)⟩
  | @sent _ side sender recipient amount ledger sends sendable moved =>
    have other : sender ≠ exchange.market.address := by
      rintro rfl
      rcases sends with rfl | rfl
      · exact outsider rfl
      · exact outsider rfl
    have sent := (invariants side).send other sendable
    rw [← moved] at sent
    have entered := invariants.setLedger side
      (·.send exchange.market.address recipient amount) sent
    rcases sends with rfl | rfl
    · exact ⟨book, bound, entered⟩
    · exact ⟨book, bound, entered⟩
  | accepted also _ trader priced priceFits latest claimable =>
    obtain rfl := Option.some.inj (bound.symm.trans also)
    exact ⟨_, rfl, invariants.place trader priced priceFits latest claimable⟩
  | @cleared _ _ plan _ found run =>
    have plans := Market.planned_of_bound bound found
    refine ⟨{ book with heaps := plan.heaps }, ?_, invariants.cleared plans run⟩
    simp only [Market.commit, bound, Option.map_some]
  | undone found run =>
    have plans := Market.planned_of_bound bound found
    exact ⟨book, bound, invariants.undone plans run⟩
  | stuck => cases returned

/-- The accounts stay sound over any run in which nobody sends in the name of the market and no
payout is lost on its way back. -/
theorem sound_run {exchange : Exchange} {accounts : Side → Account}
    (sound : exchange.Sound accounts) {steps : List Step}
    (outsiders : ∀ step ∈ steps, step.sender? ≠ some exchange.market.address)
    (returned : ∀ answer ∈ (exchange.run steps).1, answer.lostPayout = false) :
    (exchange.run steps).2.Sound fun side =>
      (accounts side).replay exchange.market.address side steps (exchange.run steps).1 := by
  induction steps generalizing exchange accounts with
  | nil => exact sound
  | cons first rest ih =>
    have next := sound_step sound first (outsiders first List.mem_cons_self)
      (returned _ List.mem_cons_self)
    have address := (follows_step exchange first).address
    have later := ih next
      (fun step member => by
        rw [address]
        exact outsiders step (List.mem_cons_of_mem _ member))
      (fun answer member => returned answer (List.mem_cons_of_mem _ member))
    rw [address] at later
    exact later

/-- In every state that a run reaches, and on each side: what was accepted is committed, was paid or
was retained; the market holds what was issued and sent to it, less what it paid; and what was
accepted was deposited before, so that the committed escrow is covered. -/
theorem escrow_accounts {exchange : Exchange} (opens : exchange.Opening) {steps : List Step}
    (outsiders : ∀ step ∈ steps, step.sender? ≠ some exchange.market.address)
    (returned : ∀ answer ∈ (exchange.run steps).1, answer.lostPayout = false) :
    ∃ book, (exchange.run steps).2.market.book = some book ∧ ∀ side,
      let account := exchange.account side steps
      let held :=
        (((exchange.run steps).2.ledgers.get side).token.balance exchange.market.address).toNat
      account.accepted = book.committed side + account.paid + account.retained ∧
        held + account.paid = account.issued + account.deposited ∧
        account.accepted ≤ account.deposited ∧
        book.committed side + account.retained + account.issued ≤ held := by
  obtain ⟨book, bound, invariants⟩ := sound_run opens.sound outsiders returned
  have address := (follows_run exchange steps).address
  refine ⟨book, bound, ?_⟩
  intro side
  have escrow := (invariants side).escrow
  have held := (invariants side).held
  have funded := (invariants side).funded
  rw [address] at held
  dsimp only at escrow held funded
  simp only [account, Book.committed]
  refine ⟨escrow, held, ?_, ?_⟩
  · omega
  · omega

/-- An exchange that has just opened. -/
def fresh : Exchange where
  market := ⟨⟨0x4d⟩, {}, 0, some ⟨⟨.create ⟨0xb1⟩ ⟨0x4d⟩, .create ⟨0x51⟩ ⟨0x4d⟩⟩, ⟨⟨0xc1⟩, ⟨0xc2⟩⟩⟩,
    .empty, 0, ⟨0⟩⟩
  ledgers := ⟨.ofToken (.create ⟨0xc1⟩ ⟨0x15⟩), .ofToken (.create ⟨0xc2⟩ ⟨0x15⟩)⟩

theorem fresh_opens : fresh.Opening := by
  have new : Market.create ⟨0x4d⟩ {} 0 = .ok ⟨⟨0x4d⟩, {}, 0, none, .empty, 0, ⟨0⟩⟩ := rfl
  have empty (side : Side) :
      ((⟨.create ⟨0xb1⟩ ⟨0x4d⟩, .create ⟨0x51⟩ ⟨0x4d⟩⟩ : Sided KeyHeap).get side).keys = #[] := by
    cases side <;> rfl
  have initialised : Market.init ⟨⟨0x4d⟩, {}, 0, none, .empty, 0, ⟨0⟩⟩ ⟨0x4d⟩
      ⟨.create ⟨0xb1⟩ ⟨0x4d⟩, .create ⟨0x51⟩ ⟨0x4d⟩⟩ ⟨⟨0xc1⟩, ⟨0xc2⟩⟩ = .ok fresh.market := rfl
  exact .intro new empty initialised ⟨⟨0x15⟩, ⟨0x15⟩⟩

/-- A bid and an ask that cross are funded and placed. -/
def funded : List Step :=
  [.issue .buy ⟨0x15⟩ ⟨0xa0⟩ 1000, .send .buy ⟨0xa0⟩ ⟨0x4d⟩ 1000, .place .buy ⟨0xa0⟩ 1200,
    .issue .sell ⟨0x15⟩ ⟨0xa2⟩ 1000000, .transfer .sell ⟨0xa2⟩ ⟨0x4d⟩ 1000000,
    .place .sell ⟨0xa2⟩ 800]

/-- Then a tick is refused, the seller tries to order with the payout that came back, and the next
tick pays. -/
def refusedOnce : List Step :=
  funded ++ [.refuse .sell ⟨0xa0⟩ 1, .tick 100 none, .place .buy ⟨0xa2⟩ 700, .tick 100 none]

/-- The 833 units that came back count once, as paid by the second tick, which retained the other
167. -/
theorem fresh_refusedOnce_accounts :
    fresh.account .buy refusedOnce = ⟨1000, 0, 1000, 1000, 833, 167⟩ ∧
      fresh.account .sell refusedOnce = ⟨1000000, 0, 1000000, 1000000, 800000, 200000⟩ ∧
      ∃ book, (fresh.run refusedOnce).2.market.book = some book ∧ ∀ side,
        (fresh.account side refusedOnce).accepted = book.committed side +
          (fresh.account side refusedOnce).paid + (fresh.account side refusedOnce).retained := by
  have outsiders : ∀ step ∈ refusedOnce, step.sender? ≠ some fresh.market.address := by decide
  have returned : ∀ answer ∈ (fresh.run refusedOnce).1, answer.lostPayout = false := by
    decide +kernel
  obtain ⟨book, bound, balanced⟩ := escrow_accounts fresh_opens outsiders returned
  exact ⟨by decide +kernel, by decide +kernel, book, bound, fun side => (balanced side).1⟩

end Exchange

end DoubleAuction
