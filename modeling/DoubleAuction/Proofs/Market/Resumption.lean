import DoubleAuction.Proofs.Market.Audit
import DoubleAuction.Proofs.Matching.Resumption

/-! # Resuming a tick

Two ticks in one epoch, one after the other, come to the same as one tick with both budgets: the
plans join (`Plan.andThen`, `Planned.andThen`), the payouts of the joined plan are those of both,
and the market and the ledgers end up alike. The audit half-way is another inequality than the one
at the end. It is met when the market covers what its orders commit before, and then a tick that
succeeds can be divided at any point (`Planned.divide`, `tick_resumes`).
-/

namespace DoubleAuction

/-- A plan and another one for the book that it leaves, as one plan. -/
def Plan.andThen (begun resumed : Plan) : Plan where
  epoch := resumed.epoch
  fills := begun.fills ++ resumed.fills
  moreWork := resumed.moreWork
  heaps := resumed.heaps
  tickVolume := begun.tickVolume + resumed.tickVolume
  volume := resumed.volume

theorem Plan.payouts_andThen (begun resumed : Plan) :
    (begun.andThen resumed).payouts = begun.payouts ++ resumed.payouts :=
  List.flatMap_append

theorem owed_append (left right : List Fill) (side : Side) :
    owed (left ++ right) side = owed left side + owed right side :=
  sumOver_append left right

namespace Market

variable {market : Market} {book : Book} {ledgers middle last : Sided RefusingToken}
  {height later : UInt64} {budget : Option Budget} {plan begun resumed : Plan}

/-- Volumes that fit 64 bits are accepted. -/
theorem addVolume_of_exact {epoch : Epoch} {paid : Nat} {tick total : UInt64}
    (tickExact : tick.toNat = paid)
    (totalExact : total.toNat = (market.carriedVolume epoch).toNat + paid) :
    market.addVolume epoch paid = .ok (tick, total) := by
  have narrow : paid < UInt64.size := tickExact ▸ tick.toNat_lt
  have fits : (market.carriedVolume epoch).toNat + paid < UInt64.size := totalExact ▸ total.toNat_lt
  have added : UInt64.ofNat paid = tick := by rw [← tickExact, UInt64.ofNat_toNat]
  have sum : market.carriedVolume epoch + tick = total := by
    apply UInt64.toNat_inj.mp
    rw [UInt64.toNat_add, tickExact, totalExact]
    exact Nat.mod_eq_of_lt fits
  simp only [addVolume, narrow, fits, added, sum, ↓reduceIte]

/-- What a plan has found out decides what it is. -/
theorem Planned.unique {other : Plan} (plans : Planned market ledgers height budget book plan)
    (also : Planned market ledgers height budget book other) : plan = other := by
  have epoch := plans.epoch.trans also.epoch.symm
  have fills := Except.ok.inj (plans.cleared.symm.trans also.cleared)
  have heaps := plans.heaps.trans also.heaps.symm
  have moreWork := plans.moreWork.trans also.moreWork.symm
  have volume := also.volume
  rw [← epoch, ← fills, plans.volume] at volume
  obtain ⟨tickVolume, total⟩ := Prod.mk.inj (Except.ok.inj volume)
  cases plan
  cases other
  simp only [Plan.mk.injEq]
  exact ⟨epoch, fills, moreWork, heaps, tickVolume, total⟩

/-- What makes a plan is enough for a tick to have it. -/
theorem plan?_of_planned (plans : Planned market ledgers height budget book plan) :
    market.plan? ledgers height budget = .ok (some plan) := by
  have named := bookFor_eq_ok_iff.mpr ⟨plans.bound, plans.addresses⟩
  have left : (clear book.heaps market.address (budget.getD market.defaultBudget)).book =
      plan.heaps := by
    rw [clear_of_owned plans.owned, plans.heaps]
  rcases plan?_of_covered named plans.gateOpen plans.result left plans.covered with
    ⟨other, found⟩ | ⟨error, refused, _⟩
  · rwa [plans.unique (planned_of_bound plans.bound found)]
  · rw [← plans.epoch, plans.volume] at refused
    cases refused

/-- Once the market clears, a tick that succeeds had a plan and made all its payouts. -/
theorem paid_of_tick (bound : market.book = some book) (gate : market.gateOpen height = true)
    {report : TickReport} (ended : (market.tick ledgers height budget).result = .ok report) :
    ∃ plan last, Planned market ledgers height budget book plan ∧
      Payout.payAll market.address ledgers plan.payouts = .paid last ∧ report = plan.report ∧
      market.tick ledgers height budget = ⟨.ok plan.report, market.commit plan, last⟩ := by
  rcases tick_of_ok ended with ⟨idle, _⟩ | ⟨plan, last, found, run, rfl, ticked⟩
  · have early := ((plan?_eq_none_iff bound).mp idle).2
    rw [gate] at early
    cases early
  · exact ⟨plan, last, planned_of_bound bound found, run, rfl, ticked⟩

@[simp] theorem address_commit (market : Market) (plan : Plan) :
    (market.commit plan).address = market.address := rfl

/-- A call in the epoch of a plan goes on with the volume of the plan. -/
theorem carriedVolume_commit (market : Market) (plan : Plan) :
    (market.commit plan).carriedVolume plan.epoch = plan.volume := if_pos rfl

section TwoTicks

variable {first second : UInt32}

theorem budgets_together (fits : first.toNat + second.toNat < UInt32.size) :
    (first + second).toNat = first.toNat + second.toNat := by
  rw [UInt32.toNat_add]
  exact Nat.mod_eq_of_lt fits

/-- A plan and a plan for what it leaves are a plan for both budgets. -/
theorem Planned.andThen (fits : first.toNat + second.toNat < UInt32.size)
    (sameEpoch : market.epochAt height = market.epochAt later)
    (foreign : ∀ side, (book.heaps.get side).Rests side (·.trader ≠ market.address))
    (begins : Planned market ledgers height (some ⟨first⟩) book begun)
    (run : Payout.payAll market.address ledgers begun.payouts = .paid middle)
    (resumes : Planned (market.commit begun) middle later (some ⟨second⟩)
      { book with heaps := begun.heaps } resumed) :
    Planned market ledgers height (some ⟨first + second⟩) book (begun.andThen resumed) := by
  have epoch : resumed.epoch = begun.epoch :=
    resumes.epoch.trans (sameEpoch.symm.trans begins.epoch.symm)
  have clearedFirst := begins.cleared
  have clearedSecond := resumes.cleared
  have left := resumes.heaps
  have moreWork := resumes.moreWork
  simp only [Option.getD_some, address_commit, begins.heaps]
    at clearedFirst clearedSecond left moreWork
  obtain ⟨_, joined, stop⟩ :=
    matchTops_resume market.address book.heaps (budgets_together fits)
  refine ⟨begins.bound, begins.addresses, begins.gateOpen, begins.owned, ?_, left.trans joined.symm,
    ?_, epoch.trans begins.epoch, ?_, ?_⟩
  · exact (result_resume (budgets_together fits)).mpr ⟨_, _, clearedFirst, clearedSecond, rfl⟩
  · rw [Option.getD_some, Clearing.moreWork, stop]
    exact moreWork
  · intro side
    have covered := resumes.covered side
    have held := begins.held foreign run side
    simp only [Plan.andThen, owed_append]
    rw [address_commit] at covered
    omega
  · obtain ⟨tickFirst, totalFirst⟩ := addVolume_eq_ok begins.volume
    obtain ⟨tickSecond, totalSecond⟩ := addVolume_eq_ok resumes.volume
    rw [epoch, carriedVolume_commit] at totalSecond
    have bound : resumed.volume.toNat < UInt64.size := resumed.volume.toNat_lt
    have small : begun.tickVolume.toNat + resumed.tickVolume.toNat < UInt64.size := by omega
    apply addVolume_of_exact
    · simp only [Plan.andThen, owed_append, UInt64.toNat_add]
      rw [Nat.mod_eq_of_lt small, tickFirst, tickSecond]
    · simp only [Plan.andThen, owed_append, epoch]
      omega

/-- A covered clearing whose volume fits has a plan. -/
theorem planned_of_covered (named : market.bookFor ledgers = .ok book)
    (gate : market.gateOpen height = true) (budget : Option Budget) {fills : List Fill}
    {heaps : Sided KeyHeap}
    (cleared : (clear book.heaps market.address
      (budget.getD market.defaultBudget)).result = .ok fills)
    (left : (clear book.heaps market.address (budget.getD market.defaultBudget)).book = heaps)
    (covered : ∀ side, owed fills side + (heaps.get side).committed side ≤
      ((ledgers.get side).token.balance market.address).toNat)
    (narrow : (market.carriedVolume (market.epochAt height)).toNat + owed fills .buy <
      UInt64.size) :
    ∃ plan, Planned market ledgers height budget book plan ∧ plan.fills = fills := by
  rcases plan?_of_covered named gate cleared left covered with ⟨plan, found⟩ | ⟨error, refused, _⟩
  · have plans := planned_of_bound (bookFor_eq_ok_iff.mp named).1 found
    exact ⟨plan, plans, Except.ok.inj (plans.result.symm.trans cleared)⟩
  · have wide := (addVolume_eq_error refused).1
    omega

/-- A plan whose payouts are all made divides at any point, if the market covers what its orders
commit. -/
theorem Planned.divide (fits : first.toNat + second.toNat < UInt32.size)
    (sameEpoch : market.epochAt height = market.epochAt later)
    (gate : market.gateOpen later = true)
    (foreign : ∀ side, (book.heaps.get side).Rests side (·.trader ≠ market.address))
    (committed : ∀ side, book.committed side ≤
      ((ledgers.get side).token.balance market.address).toNat)
    (plans : Planned market ledgers height (some ⟨first + second⟩) book plan)
    (run : Payout.payAll market.address ledgers plan.payouts = .paid last) :
    ∃ begun resumed middle, Planned market ledgers height (some ⟨first⟩) book begun ∧
      Payout.payAll market.address ledgers begun.payouts = .paid middle ∧
      Planned (market.commit begun) middle later (some ⟨second⟩)
        { book with heaps := begun.heaps } resumed ∧
      Payout.payAll market.address middle resumed.payouts = .paid last := by
  have together := budgets_together fits
  obtain ⟨firstFills, secondFills, clearedFirst, clearedSecond, fills⟩ :=
    (result_resume together).mp plans.cleared
  obtain ⟨_, joined, _⟩ := matchTops_resume market.address book.heaps together
  obtain ⟨_, total⟩ := addVolume_eq_ok plans.volume
  rw [fills, owed_append, plans.epoch] at total
  have wide : plan.volume.toNat < UInt64.size := plan.volume.toNat_lt
  rw [← clear_of_owned plans.owned] at clearedFirst
  -- The first part is covered because everything that was committed is.
  have coveredFirst (side : Side) :=
    (covered_iff clearedFirst side _).mpr (Nat.le_add_right_of_le (committed side))
  have named := bookFor_eq_ok_iff.mpr ⟨plans.bound, plans.addresses⟩
  obtain ⟨begun, begins, rfl⟩ := planned_of_covered named plans.gateOpen (some ⟨first⟩)
    clearedFirst rfl coveredFirst (by omega)
  have split : plan.payouts = begun.payouts ++ secondFills.flatMap Fill.payouts := by
    rw [Plan.payouts, fills, List.flatMap_append]
    rfl
  rw [split] at run
  obtain ⟨middle, before, after⟩ := Payout.payAll_append_eq_paid_iff.mp run
  -- The second part is covered because the whole is, once the first is paid.
  have coveredSecond (side : Side) : owed secondFills side + (plan.heaps.get side).committed side ≤
      ((middle.get side).token.balance market.address).toNat := by
    have covered := plans.covered side
    have held := begins.held foreign before side
    rw [fills, owed_append] at covered
    omega
  have narrow : ((market.commit begun).carriedVolume (market.epochAt later)).toNat +
      owed secondFills .buy < UInt64.size := by
    have volume := (addVolume_eq_ok begins.volume).2
    rw [begins.epoch] at volume
    rw [← sameEpoch, ← begins.epoch, carriedVolume_commit]
    omega
  have heaps : begun.heaps = (matchTops market.address book.heaps ⟨first⟩).book := begins.heaps
  rw [← heaps, ← clear_of_owned begins.owner] at clearedSecond joined
  obtain ⟨resumed, resumes, rfl⟩ := planned_of_covered (begins.bookFor_commit before) gate
    (some ⟨second⟩) clearedSecond (joined.symm.trans plans.heaps.symm) coveredSecond narrow
  exact ⟨begun, resumed, middle, begins, before, resumes, after⟩

/-- Two ticks that succeed one after the other in the same epoch make the fills of one tick with
both budgets and leave the same market and the same ledgers, unless the market has orders of its
own. One tick that succeeds can be divided, if the market covers what its orders commit. -/
theorem tick_resumes (bound : market.book = some book)
    (foreign : ∀ side, (book.heaps.get side).Rests side (·.trader ≠ market.address))
    (ledgers : Sided RefusingToken) (gate : market.gateOpen height = true)
    (laterGate : market.gateOpen later = true)
    (sameEpoch : market.epochAt height = market.epochAt later)
    (fits : first.toNat + second.toNat < UInt32.size) :
    let begun := market.tick ledgers height (some ⟨first⟩)
    let resumed := begun.market.tick begun.ledgers later (some ⟨second⟩)
    let whole := market.tick ledgers height (some ⟨first + second⟩)
    (∀ begunReport resumedReport, begun.result = .ok begunReport →
      resumed.result = .ok resumedReport →
      ∃ report, whole.result = .ok report ∧
        report.fills = begunReport.fills ++ resumedReport.fills ∧
        report.volume.toNat = begunReport.volume.toNat + resumedReport.volume.toNat ∧
        report.moreWork = resumedReport.moreWork ∧
        whole.market = resumed.market ∧ whole.ledgers = resumed.ledgers) ∧
    ((∀ side, book.committed side ≤
        ((ledgers.get side).token.balance market.address).toNat) →
      (∃ report, whole.result = .ok report) →
      ∃ begunReport resumedReport, begun.result = .ok begunReport ∧
        resumed.result = .ok resumedReport) := by
  dsimp only
  constructor
  · intro begunReport resumedReport begunEnded resumedEnded
    obtain ⟨begun, middle, begins, before, rfl, ticked⟩ := paid_of_tick bound gate begunEnded
    rw [ticked] at resumedEnded ⊢
    have rebound : (market.commit begun).book = some { book with heaps := begun.heaps } :=
      (bookFor_eq_ok_iff.mp (begins.bookFor_commit before)).1
    obtain ⟨resumed, last, resumes, after, rfl, reticked⟩ :=
      paid_of_tick rebound laterGate resumedEnded
    have joined := begins.andThen fits sameEpoch foreign before resumes
    have paid : Payout.payAll market.address ledgers (begun.andThen resumed).payouts = .paid last :=
      by
        rw [Plan.payouts_andThen]
        exact Payout.payAll_append_eq_paid_iff.mpr ⟨middle, before, after⟩
    rw [reticked, tick_of_paid (plan?_of_planned joined) paid]
    obtain ⟨volumeFirst, _⟩ := addVolume_eq_ok begins.volume
    obtain ⟨volumeSecond, _⟩ := addVolume_eq_ok resumes.volume
    obtain ⟨volume, _⟩ := addVolume_eq_ok joined.volume
    refine ⟨_, rfl, rfl, ?_, rfl, ?_, rfl⟩
    · simp only [Plan.report]
      rw [volume, volumeFirst, volumeSecond]
      exact owed_append _ _ _
    · simp only [commit, bound]
      rfl
  · rintro committed ⟨report, ended⟩
    obtain ⟨plan, last, plans, run, _⟩ := paid_of_tick bound gate ended
    obtain ⟨begun, resumed, middle, begins, before, resumes, after⟩ :=
      plans.divide fits sameEpoch laterGate foreign committed run
    rw [tick_of_paid (plan?_of_planned begins) before]
    dsimp only
    rw [tick_of_paid (plan?_of_planned resumes) after]
    exact ⟨_, _, rfl, rfl⟩

end TwoTicks

/-- The book of two bids that cross two asks. -/
def pairedBook : Book where
  heaps := ⟨⟨⟨0xb1⟩, ⟨0x4d⟩,
      #[(Order.mk .buy 1400 1000 ⟨0xa1⟩).key, (Order.mk .buy 1200 1000 ⟨0xa0⟩).key]⟩,
    ⟨⟨0x51⟩, ⟨0x4d⟩,
      #[(Order.mk .sell 600 1000000 ⟨0xa3⟩).key, (Order.mk .sell 800 1000000 ⟨0xa2⟩).key]⟩⟩
  currencies := ⟨⟨0xc1⟩, ⟨0xc2⟩⟩

/-- Ledgers on which the market holds just what the orders of that book commit. -/
def pairedLedgers : Sided RefusingToken where
  buy := .ofToken ((Token.create ⟨0xc1⟩ ⟨0x15⟩).setBalance ⟨0x4d⟩ 2000)
  sell := .ofToken ((Token.create ⟨0xc2⟩ ⟨0x15⟩).setBalance ⟨0x4d⟩ 2000000)

/-- The crossed market with that book. -/
def pairedMarket : Market := { crossedMarket with book := some pairedBook }

/-- A tick with a budget of one makes the first of its two fills, another one of the same epoch
makes the second, and together they do what a budget of five does at once. -/
theorem pairedMarket_resumed :
    let begun := pairedMarket.tick pairedLedgers 100 (some ⟨1⟩)
    let resumed := begun.market.tick begun.ledgers 199 (some ⟨4⟩)
    let whole := pairedMarket.tick pairedLedgers 100 (some ⟨5⟩)
    ∃ begunReport resumedReport report, begun.result = .ok begunReport ∧
      resumed.result = .ok resumedReport ∧ whole.result = .ok report ∧
      begunReport.moreWork = true ∧ report.fills.length = 2 ∧
      report.fills = begunReport.fills ++ resumedReport.fills ∧
      whole.market = resumed.market ∧ whole.ledgers = resumed.ledgers := by
  have foreign (side : Side) :
      (pairedBook.heaps.get side).Rests side (·.trader ≠ pairedMarket.address) := by
    cases side <;> decide +kernel
  have committed (side : Side) : pairedBook.committed side ≤
      ((pairedLedgers.get side).token.balance pairedMarket.address).toNat := by
    cases side <;> decide +kernel
  have bound : pairedMarket.book = some pairedBook := rfl
  have gate : pairedMarket.gateOpen 100 = true := by decide
  have laterGate : pairedMarket.gateOpen 199 = true := by decide
  have sameEpoch : pairedMarket.epochAt 100 = pairedMarket.epochAt 199 := by decide
  have fits : (1 : UInt32).toNat + (4 : UInt32).toNat < UInt32.size := by decide
  have resumes := tick_resumes bound foreign pairedLedgers gate laterGate sameEpoch fits
  have five : (1 : UInt32) + 4 = 5 := by decide
  have unfailed : (pairedMarket.tick pairedLedgers 100 (some ⟨5⟩)).error? = none := by
    decide +kernel
  have more : (pairedMarket.tick pairedLedgers 100 (some ⟨1⟩)).result.toOption.map
      TickReport.moreWork = some true := by decide +kernel
  have matched : (pairedMarket.tick pairedLedgers 100 (some ⟨5⟩)).result.toOption.map
      (·.fills.length) = some 2 := by decide +kernel
  dsimp only at resumes
  rw [five] at resumes
  obtain ⟨joins, divides⟩ := resumes
  have ended := Ticked.error?_eq_none_iff.mp unfailed
  obtain ⟨begunReport, resumedReport, begun, resumed⟩ := divides committed ended
  obtain ⟨report, whole, fills, _, _, market, ledgers⟩ :=
    joins begunReport resumedReport begun resumed
  rw [begun] at more
  rw [whole] at matched
  exact ⟨begunReport, resumedReport, report, begun, resumed, whole, Option.some.inj more,
    Option.some.inj matched, fills, market, ledgers⟩

end Market

end DoubleAuction
