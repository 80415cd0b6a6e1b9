import DoubleAuction.Proofs.Market.Rollback

/-! # The audit of a tick

Before it pays, a tick compares what it will hold with what the orders left by the clearing commit.
All that the orders committed before is then paid, retained, or resting, so the comparison can be
read off the book that the tick finds: what the market holds and what the fills retain must cover
what the orders commit (`covered_iff`). Nothing else decides whether the tick succeeds, as long as
no payout is refused and no number grows too wide (`tick_of_covered`, `audit_exact`); and a tick
that succeeds leaves every commitment covered (`positions_of_paid`).
-/

namespace DoubleAuction.Market

variable {market : Market} {book : Book} {ledgers : Sided RefusingToken} {height : UInt64}
  {budget : Option Budget} {fills : List Fill}

theorem positions_of_bookFor (named : market.bookFor ledgers = .ok book) :
    market.positions ledgers = .ok (.ofFn fun side =>
      .of (ledgers.get side) market.address (book.committed side)) :=
  bind_eq_ok.mpr ⟨book, named, rfl⟩

/-- When all payouts of a plan were made, the market covers what the plan leaves resting. -/
theorem positions_of_paid {plan : Plan} {last : Sided RefusingToken}
    (plans : Planned market ledgers height budget book plan)
    (run : Payout.payAll market.address ledgers plan.payouts = .paid last) :
    ∃ positions, (market.commit plan).positions last = .ok positions ∧
      ∀ side, (positions.get side).check = .ok () := by
  refine ⟨_, positions_of_bookFor (plans.bookFor_commit run), ?_⟩
  intro side
  have moved := Payout.balance_of_paid run side market.address
  have covered := plans.covered side
  rw [if_pos rfl, Plan.payouts, totalOn_flatMap_payouts] at moved
  rw [Sided.get_ofFn, check_eq_ok_iff]
  change (plan.heaps.get side).committed side ≤ ((last.get side).token.balance market.address).toNat
  omega

/-- A holding covers what a clearing pays and leaves committed exactly when, with what the fills
retain, it covers what was committed before. -/
theorem covered_iff {budget : Budget}
    (cleared : (clear book.heaps market.address budget).result = .ok fills) (side : Side)
    (held : Nat) :
    owed fills side + ((clear book.heaps market.address budget).book.get side).committed side ≤
        held ↔
      book.committed side ≤ held + retainedBy fills side := by
  have owned := owned_of_clear cleared
  have path := path_matchTops market.address book.heaps budget
  rw [clear_of_owned owned] at cleared ⊢
  rw [← Clearing.result_eq_ok cleared] at path
  have conserved := path.committed owned side
  rw [Book.committed]
  omega

/-- A tick whose clearing is covered succeeds when its payouts are possible, unless the volume does
not fit. -/
theorem tick_of_covered (named : market.bookFor ledgers = .ok book)
    (cleared : (clear book.heaps market.address
      (budget.getD market.defaultBudget)).result = .ok fills)
    (deliverable : Deliverable market.address ledgers fills)
    (covered : market.gateOpen height = true → ∀ side, book.committed side ≤
      ((ledgers.get side).token.balance market.address).toNat + retainedBy fills side) :
    (∃ report, (market.tick ledgers height budget).result = .ok report) ∨
      market.gateOpen height = true ∧
        UInt64.size ≤ (market.carriedVolume (market.epochAt height)).toNat + owed fills .buy ∧
        ∃ error, (market.tick ledgers height budget).result = .error error ∧
          error.isVolumeTooWide = true := by
  have bound := (bookFor_eq_ok_iff.mp named).1
  cases gate : market.gateOpen height with
  | false =>
    have idle : market.plan? ledgers height budget = .ok none :=
      (plan?_eq_none_iff bound).mpr ⟨named, gate⟩
    refine .inl ⟨.idle (market.epochAt height), ?_⟩
    simp only [tick, idle]
  | true =>
    have enough (side : Side) := (covered_iff cleared side _).mpr (covered gate side)
    rcases plan?_of_covered named gate cleared rfl enough with
      ⟨plan, found⟩ | ⟨error, refused, failed⟩
    · have plans := planned_of_bound bound found
      obtain rfl : fills = plan.fills := Except.ok.inj (cleared.symm.trans plans.result)
      obtain ⟨last, paid⟩ := Payout.payAll_eq_paid (plans.payable deliverable)
      exact .inl ⟨plan.report, by rw [tick_of_paid found paid]⟩
    · obtain ⟨wide, volume⟩ := addVolume_eq_error refused
      refine .inr ⟨rfl, wide, error, ?_, volume⟩
      simp only [tick, failed]

/-- A tick that cleared left every commitment covered. When clearing the book succeeds, its traders
can be paid and the volume fits, the tick succeeds exactly if it was given the ledgers of the book
and, once the market clears, it holds on each of them at least what the orders commit less what the
fills retain. -/
theorem audit_exact (bound : market.book = some book) (ledgers : Sided RefusingToken)
    (height : UInt64) (budget : Option Budget) :
    (∀ report, (market.tick ledgers height budget).result = .ok report →
        report.gateOpen = true →
        ∃ positions,
          (market.tick ledgers height budget).market.positions
            (market.tick ledgers height budget).ledgers = .ok positions ∧
          ∀ side, (positions.get side).check = .ok ()) ∧
      ∀ fills, (clear book.heaps market.address (budget.getD market.defaultBudget)).result =
          .ok fills →
        Deliverable market.address ledgers fills →
        (market.carriedVolume (market.epochAt height)).toNat + owed fills .buy < UInt64.size →
        ((∃ report, (market.tick ledgers height budget).result = .ok report) ↔
          (∀ side, (ledgers.get side).token.address = book.currencies.get side) ∧
            (market.gateOpen height = true → ∀ side, book.committed side ≤
              ((ledgers.get side).token.balance market.address).toNat +
                retainedBy fills side)) := by
  constructor
  · intro report ended gate
    rcases tick_of_ok ended with ⟨_, rfl, _⟩ | ⟨plan, last, found, run, rfl, ticked⟩
    · cases gate
    · rw [ticked]
      exact positions_of_paid (planned_of_bound bound found) run
  · intro fills cleared deliverable narrow
    constructor
    · rintro ⟨report, ended⟩
      rcases tick_of_ok ended with ⟨idle, _⟩ | ⟨plan, last, found, _⟩
      · obtain ⟨named, early⟩ := (plan?_eq_none_iff bound).mp idle
        refine ⟨(bookFor_eq_ok_iff.mp named).2, ?_⟩
        intro gate
        rw [early] at gate
        cases gate
      · have plans := planned_of_bound bound found
        obtain rfl : fills = plan.fills := Except.ok.inj (cleared.symm.trans plans.result)
        refine ⟨plans.addresses, ?_⟩
        intro _ side
        have covered := plans.covered side
        have conserved := plans.committed side
        omega
    · rintro ⟨addresses, covered⟩
      have named := bookFor_eq_ok_iff.mpr ⟨bound, addresses⟩
      rcases tick_of_covered named cleared deliverable covered with succeeded | ⟨_, wide, _⟩
      · exact succeeded
      · omega

/-- The book of the crossed market. -/
def crossedBook : Book where
  heaps := ⟨⟨⟨0xb1⟩, ⟨0x4d⟩, #[(Order.mk .buy 1200 1000 ⟨0xa0⟩).key]⟩,
    ⟨⟨0x51⟩, ⟨0x4d⟩, #[(Order.mk .sell 800 1000000 ⟨0xa2⟩).key]⟩⟩
  currencies := ⟨⟨0xc1⟩, ⟨0xc2⟩⟩

/-- The match of its two orders, which commit 1000 and 1000000. -/
def crossedFill : Fill :=
  ⟨.bothFilled, ⟨0xa0⟩, ⟨0xa2⟩, 1200, 800, 833, 800000, 0, 0, 167, 200000⟩

/-- Its ledgers when the market holds just enough of the second currency to pay the bidder. -/
def drained (held : Amount) : Sided RefusingToken where
  buy := .ofToken ((Token.create ⟨0xc1⟩ ⟨0x15⟩).setBalance ⟨0x4d⟩ held)
  sell := .ofToken ((Token.create ⟨0xc2⟩ ⟨0x15⟩).setBalance ⟨0x4d⟩ 800000)

theorem drained_deliverable (held : Amount) :
    Deliverable crossedMarket.address (drained held) [crossedFill] := by
  constructor
  · intro payout _
    apply RefusingToken.accepts_of_unrefused
    cases payout.side <;> rfl
  · intro side owner other
    have due := receivedBy_le_owed [crossedFill] side owner
    have small : owed [crossedFill] side < Amount.size := by
      cases side <;> decide
    have nothing : ((drained held).get side).token.balance owner = 0 := by
      cases side with
      | buy => exact (Token.balance_setBalance _ _ _ _).trans (if_neg (Ne.symm other))
      | sell => exact (Token.balance_setBalance _ _ _ _).trans (if_neg (Ne.symm other))
    rw [nothing]
    change 0 + _ < _
    omega

/-- With 833 of the first currency the tick succeeds and leaves the book covered, and with 832 it
fails: the match pays 833. -/
theorem crossedMarket_audited :
    (∃ report positions, (crossedMarket.tick (drained 833) 100 none).result = .ok report ∧
      (crossedMarket.tick (drained 833) 100 none).market.positions
        (crossedMarket.tick (drained 833) 100 none).ledgers = .ok positions ∧
      ∀ side, (positions.get side).check = .ok ()) ∧
      ¬ ∃ report, (crossedMarket.tick (drained 832) 100 none).result = .ok report := by
  have bound : crossedMarket.book = some crossedBook := rfl
  have cleared : (clear crossedBook.heaps crossedMarket.address
      crossedMarket.defaultBudget).result = .ok [crossedFill] := by
    have fills : (clear crossedBook.heaps crossedMarket.address
      crossedMarket.defaultBudget).fills = [crossedFill] := by decide +kernel
    have stop : (clear crossedBook.heaps crossedMarket.address
      crossedMarket.defaultBudget).stop = .uncrossed := by decide +kernel
    rw [Clearing.result, stop, fills]
  have narrow : (crossedMarket.carriedVolume (crossedMarket.epochAt 100)).toNat +
      owed [crossedFill] .buy < UInt64.size := by decide
  constructor
  · have addresses (side : Side) : ((drained 833).get side).token.address =
        crossedBook.currencies.get side := by
      cases side <;> decide
    have covered (side : Side) : crossedBook.committed side ≤
        (((drained 833).get side).token.balance crossedMarket.address).toNat +
          retainedBy [crossedFill] side := by
      cases side <;> decide
    obtain ⟨sound, succeeds⟩ := audit_exact bound (drained 833) 100 none
    obtain ⟨report, ended⟩ := (succeeds _ cleared (drained_deliverable 833) narrow).mpr
      ⟨addresses, fun _ => covered⟩
    have gate : report.gateOpen = true := gateOpen_of_ok bound ended
    obtain ⟨positions, found, checks⟩ := sound report ended gate
    exact ⟨report, positions, ended, found, checks⟩
  · intro succeeded
    obtain ⟨_, succeeds⟩ := audit_exact bound (drained 832) 100 none
    obtain ⟨_, covered⟩ := (succeeds _ cleared (drained_deliverable 832) narrow).mp succeeded
    exact absurd (covered (by decide) .buy) (by decide)

end DoubleAuction.Market
