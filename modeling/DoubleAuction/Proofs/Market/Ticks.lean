import DoubleAuction.Proofs.Market.FillPayouts

/-! # How a tick ends

A tick that has a plan has cleared the book of the given ledgers and found it covered: on each side
the market holds what the fills pay and what the orders left commit (`Market.Planned`, `planned`).
Conversely, a clearing that is covered has a plan (`plan?_of_covered`). What follows is a run of
payouts, and the tick ends as that run does (`TickEnd`, `tick_end`).
-/

namespace DoubleAuction

/-- Whether an error says that a payout could not be returned. -/
def Error.isPayoutNotReturned : Error → Bool
  | .internal (.payoutNotReturned ..) => true
  | _ => false

/-- Whether an error says that a volume does not fit 64 bits. -/
def Error.isVolumeTooWide : Error → Bool
  | .internal (.tickVolumeTooWide _) | .internal (.epochVolumeTooWide ..) => true
  | _ => false

theorem Error.isPayoutNotReturned_of_volume {error : Error}
    (volume : error.isVolumeTooWide = true) : error.isPayoutNotReturned = false := by
  unfold isVolumeTooWide at volume
  split at volume
  · rfl
  · rfl
  · cases volume

/-- The error of a tick that failed. -/
def Ticked.error? {L : Type u} (ticked : Ticked L) : Option Error :=
  match ticked.result with
  | .ok _ => none
  | .error error => some error

theorem Ticked.error?_eq_some_iff {L : Type u} {ticked : Ticked L} {error : Error} :
    ticked.error? = some error ↔ ticked.result = .error error := by
  unfold error?
  cases ticked.result <;> simp

theorem Ticked.error?_eq_none_iff {L : Type u} {ticked : Ticked L} :
    ticked.error? = none ↔ ∃ report, ticked.result = .ok report := by
  unfold error?
  cases ticked.result <;> simp

/-- The payouts that a plan calls for. -/
def Plan.payouts (plan : Plan) : List Payout := plan.fills.flatMap Fill.payouts

namespace Market

/-- What a planned tick has found out about the book and the ledgers. -/
structure Planned (market : Market) (ledgers : Sided RefusingToken) (height : UInt64)
    (budget : Option Budget) (book : Book) (plan : Plan) : Prop where
  bound : market.book = some book
  addresses : ∀ side, (ledgers.get side).token.address = book.currencies.get side
  gateOpen : market.gateOpen height = true
  owned : ∀ side, (book.heaps.get side).owner = market.address
  cleared :
    (matchTops market.address book.heaps (budget.getD market.defaultBudget)).result = .ok plan.fills
  heaps :
    plan.heaps = (matchTops market.address book.heaps (budget.getD market.defaultBudget)).book
  moreWork : plan.moreWork =
    (matchTops market.address book.heaps (budget.getD market.defaultBudget)).moreWork
  epoch : plan.epoch = market.epochAt height
  covered : ∀ side, owed plan.fills side + (plan.heaps.get side).committed side ≤
    ((ledgers.get side).token.balance market.address).toNat
  volume : market.addVolume plan.epoch (owed plan.fills .buy) = .ok (plan.tickVolume, plan.volume)

theorem checkLedger_eq_ok_iff {ledger : RefusingToken} {expected : Address} :
    checkLedger expected ledger = .ok () ↔ ledger.token.address = expected :=
  require_eq_ok.trans (and_iff_left rfl)

theorem bookFor_eq_ok_iff {market : Market} {ledgers : Sided RefusingToken} {book : Book} :
    market.bookFor ledgers = .ok book ↔
      market.book = some book ∧
        ∀ side, (ledgers.get side).token.address = book.currencies.get side := by
  unfold bookFor
  cases market.book with
  | none => exact ⟨nofun, nofun⟩
  | some other =>
    constructor
    · intro found
      obtain ⟨_, first, found⟩ := bind_eq_ok.mp found
      obtain ⟨_, second, found⟩ := bind_eq_ok.mp found
      cases found
      refine ⟨rfl, ?_⟩
      intro side
      cases side with
      | buy => exact checkLedger_eq_ok_iff.mp first
      | sell => exact checkLedger_eq_ok_iff.mp second
    · rintro ⟨⟨⟩, addresses⟩
      refine bind_eq_ok.mpr ⟨(), checkLedger_eq_ok_iff.mpr (addresses .buy), ?_⟩
      exact bind_eq_ok.mpr ⟨(), checkLedger_eq_ok_iff.mpr (addresses .sell), rfl⟩

theorem afterPaying_eq_ok_iff {ledger : RefusingToken} {market : Address} {committed owed : Nat}
    {position : EscrowPosition} :
    EscrowPosition.afterPaying ledger market committed owed = .ok position ↔
      owed ≤ (ledger.token.balance market).toNat ∧
        position =
          ⟨ledger.token.address, committed, (ledger.token.balance market).toNat - owed⟩ := by
  constructor
  · intro paid
    obtain ⟨enough, same⟩ := guard_eq_ok.mp paid
    exact ⟨Nat.le_of_not_lt enough, (Except.ok.inj same).symm⟩
  · rintro ⟨enough, rfl⟩
    exact guard_eq_ok.mpr ⟨Nat.not_lt_of_le enough, rfl⟩

theorem check_eq_ok_iff {position : EscrowPosition} :
    position.check = .ok () ↔ position.committed ≤ position.held := by
  unfold EscrowPosition.check
  rw [guard_eq_ok, Nat.not_lt]
  exact and_iff_left rfl

/-- The steps by which a plan is made, each of which succeeds. -/
structure Planning {L : Type u} [Ledger L] (market : Market) (ledgers : Sided L) (height : UInt64)
    (budget : Option Budget) (book : Book) (plan : Plan) : Prop where
  named : market.bookFor ledgers = .ok book
  gateOpen : market.gateOpen height = true
  cleared :
    (clear book.heaps market.address (budget.getD market.defaultBudget)).result = .ok plan.fills
  heaps : plan.heaps = (clear book.heaps market.address (budget.getD market.defaultBudget)).book
  moreWork : plan.moreWork =
    (clear book.heaps market.address (budget.getD market.defaultBudget)).moreWork
  epoch : plan.epoch = market.epochAt height
  positions : ∀ side, ∃ position, EscrowPosition.afterPaying (ledgers.get side) market.address
    ((plan.heaps.get side).committed side) (owed plan.fills side) = .ok position ∧
      position.check = .ok ()
  volume : market.addVolume plan.epoch (owed plan.fills .buy) = .ok (plan.tickVolume, plan.volume)

theorem planning_of_found {L : Type u} [Ledger L] {market : Market} {ledgers : Sided L}
    {height : UInt64} {budget : Option Budget} {plan : Plan}
    (found : market.plan? ledgers height budget = .ok (some plan)) :
    ∃ book, Planning market ledgers height budget book plan := by
  obtain ⟨book, named, found⟩ := bind_eq_ok.mp found
  split at found
  case isFalse => cases found
  case isTrue gate =>
    obtain ⟨_, planning, same⟩ := bind_eq_ok.mp found
    obtain ⟨fills, ended, planning⟩ := bind_eq_ok.mp planning
    obtain ⟨first, firstPays, planning⟩ := bind_eq_ok.mp planning
    obtain ⟨second, secondPays, planning⟩ := bind_eq_ok.mp planning
    obtain ⟨_, firstHolds, planning⟩ := bind_eq_ok.mp planning
    obtain ⟨_, secondHolds, planning⟩ := bind_eq_ok.mp planning
    obtain ⟨_, added, planning⟩ := bind_eq_ok.mp planning
    cases planning
    cases same
    refine ⟨book, named, gate, ended, rfl, rfl, rfl, ?_, added⟩
    intro side
    cases side with
    | buy => exact ⟨first, firstPays, firstHolds⟩
    | sell => exact ⟨second, secondPays, secondHolds⟩

theorem planned {market : Market} {ledgers : Sided RefusingToken} {height : UInt64}
    {budget : Option Budget} {plan : Plan}
    (found : market.plan? ledgers height budget = .ok (some plan)) :
    ∃ book, Planned market ledgers height budget book plan := by
  obtain ⟨book, planning⟩ := planning_of_found found
  obtain ⟨bound, addresses⟩ := bookFor_eq_ok_iff.mp planning.named
  have owned := owned_of_clear planning.cleared
  have matched := clear_of_owned owned (budget.getD market.defaultBudget)
  have cleared := planning.cleared
  have heaps := planning.heaps
  have moreWork := planning.moreWork
  rw [matched] at cleared heaps moreWork
  refine ⟨book, bound, addresses, planning.gateOpen, owned, cleared, heaps, moreWork,
    planning.epoch, ?_, planning.volume⟩
  intro side
  obtain ⟨position, pays, holds⟩ := planning.positions side
  obtain ⟨paid, rfl⟩ := afterPaying_eq_ok_iff.mp pays
  have left := check_eq_ok_iff.mp holds
  dsimp only at left
  omega

theorem planned_of_bound {market : Market} {ledgers : Sided RefusingToken} {height : UInt64}
    {budget : Option Budget} {book : Book} {plan : Plan} (bound : market.book = some book)
    (found : market.plan? ledgers height budget = .ok (some plan)) :
    Planned market ledgers height budget book plan := by
  obtain ⟨other, plans⟩ := planned found
  obtain rfl : book = other := Option.some.inj (bound.symm.trans plans.bound)
  exact plans

/-- Volumes that are accepted are exact. -/
theorem addVolume_eq_ok {market : Market} {epoch : Epoch} {paid : Nat} {tick total : UInt64}
    (added : market.addVolume epoch paid = .ok (tick, total)) :
    tick.toNat = paid ∧ total.toNat = (market.carriedVolume epoch).toNat + paid := by
  simp only [addVolume] at added
  split at added
  case isFalse => cases added
  case isTrue narrow =>
    obtain ⟨fits, same⟩ := require_eq_ok.mp added
    obtain ⟨rfl, rfl⟩ := Prod.mk.inj same
    have whole : (UInt64.ofNat paid).toNat = paid := UInt64.toNat_ofNat_of_lt' narrow
    refine ⟨whole, ?_⟩
    rw [UInt64.toNat_add, whole]
    exact Nat.mod_eq_of_lt fits

/-- Volumes are refused only when they do not fit 64 bits. -/
theorem addVolume_eq_error {market : Market} {epoch : Epoch} {paid : Nat} {error : Error}
    (refused : market.addVolume epoch paid = .error error) :
    UInt64.size ≤ (market.carriedVolume epoch).toNat + paid ∧ error.isVolumeTooWide = true := by
  simp only [addVolume] at refused
  split at refused
  case isTrue =>
    split at refused
    case isTrue => cases refused
    case isFalse wide =>
      cases refused
      exact ⟨Nat.le_of_not_lt wide, rfl⟩
  case isFalse wide =>
    cases refused
    exact ⟨by omega, rfl⟩

section Plans

variable {market : Market} {ledgers : Sided RefusingToken} {height : UInt64}
  {budget : Option Budget} {book : Book}

/-- A tick without a plan that does not fail comes before the first clearing. -/
theorem plan?_eq_none_iff (bound : market.book = some book) :
    market.plan? ledgers height budget = .ok none ↔
      market.bookFor ledgers = .ok book ∧ market.gateOpen height = false := by
  constructor
  · intro idle
    obtain ⟨other, named, idle⟩ := bind_eq_ok.mp idle
    obtain rfl : book = other :=
      Option.some.inj (bound.symm.trans (bookFor_eq_ok_iff.mp named).1)
    refine ⟨named, ?_⟩
    split at idle
    case isTrue =>
      obtain ⟨_, _, same⟩ := bind_eq_ok.mp idle
      cases same
    case isFalse early => simpa only [Bool.not_eq_true] using early
  · rintro ⟨named, early⟩
    refine bind_eq_ok.mpr ⟨book, named, ?_⟩
    simp only [early, Bool.false_eq_true, ↓reduceIte]
    rfl

/-- A clearing of the book that the ledgers cover has a plan, unless the volumes grow too wide. -/
theorem plan?_of_covered (named : market.bookFor ledgers = .ok book)
    (gate : market.gateOpen height = true) {fills : List Fill} {heaps : Sided KeyHeap}
    (cleared : (clear book.heaps market.address
      (budget.getD market.defaultBudget)).result = .ok fills)
    (left : (clear book.heaps market.address (budget.getD market.defaultBudget)).book = heaps)
    (covered : ∀ side, owed fills side + (heaps.get side).committed side ≤
      ((ledgers.get side).token.balance market.address).toNat) :
    (∃ plan, market.plan? ledgers height budget = .ok (some plan)) ∨
      ∃ error, market.addVolume (market.epochAt height) (owed fills .buy) = .error error ∧
        market.plan? ledgers height budget = .error error := by
  have pays (side : Side) : EscrowPosition.afterPaying (ledgers.get side) market.address
      ((heaps.get side).committed side) (owed fills side) =
        .ok ⟨(ledgers.get side).token.address, (heaps.get side).committed side,
          ((ledgers.get side).token.balance market.address).toNat - owed fills side⟩ := by
    have enough := covered side
    exact afterPaying_eq_ok_iff.mpr ⟨by omega, rfl⟩
  have holds (side : Side) : (EscrowPosition.mk (ledgers.get side).token.address
      ((heaps.get side).committed side)
      (((ledgers.get side).token.balance market.address).toNat - owed fills side)).check =
        .ok () := by
    have enough := covered side
    exact check_eq_ok_iff.mpr (by dsimp only; omega)
  simp only [plan?, named, gate, planClearing, cleared, left, pays, holds, bind, Except.bind, pure,
    Except.pure, ↓reduceIte]
  cases market.addVolume (market.epochAt height) (owed fills .buy) with
  | error error => exact .inr ⟨error, rfl, rfl⟩
  | ok volumes => exact .inl ⟨_, rfl⟩

end Plans

namespace Planned

variable {market : Market} {ledgers : Sided RefusingToken} {height : UInt64}
  {budget : Option Budget} {book : Book} {plan : Plan}

/-- The fills of a plan are matches that lead to the book of the plan. -/
theorem path (plans : Planned market ledgers height budget book plan) :
    MatchPath market.address book.heaps plan.fills plan.heaps := by
  have matched := path_matchTops market.address book.heaps (budget.getD market.defaultBudget)
  rwa [← plans.heaps, ← Clearing.result_eq_ok plans.cleared] at matched

/-- The fills of a plan are those of clearing the book. -/
theorem result (plans : Planned market ledgers height budget book plan) :
    (clear book.heaps market.address (budget.getD market.defaultBudget)).result =
      .ok plan.fills := by
  rw [clear_of_owned plans.owned]
  exact plans.cleared

/-- What a plan commits, pays and retains is what the book committed. -/
theorem committed (plans : Planned market ledgers height budget book plan) (side : Side) :
    (plan.heaps.get side).committed side + owed plan.fills side + retainedBy plan.fills side =
      book.committed side :=
  plans.path.committed plans.owned side

/-- The orders that a plan leaves, and those that it matched, had every property of the orders
before that survives a smaller quantity. -/
theorem rests (plans : Planned market ledgers height budget book plan) {property : Order → Prop}
    (reduces : ∀ order quantity, property order → quantity ≠ 0 → quantity ≤ order.quantity →
      property (order.withQuantity quantity))
    {side : Side} (rests : (book.heaps.get side).Rests side property) :
    (plan.heaps.get side).Rests side property ∧
      ∀ fill ∈ plan.fills, ∃ order, property order ∧
        fill.trader side = order.trader ∧ fill.price side = order.price :=
  plans.path.rests reduces plans.owned rests

/-- Whoever has no order in the book is paid nothing. -/
theorem payee_ne (plans : Planned market ledgers height budget book plan) {outsider : Address}
    (absent : ∀ side, (book.heaps.get side).Rests side (·.trader ≠ outsider)) {payout : Payout}
    (member : payout ∈ plan.payouts) : payout.payee ≠ outsider := by
  obtain ⟨fill, matched, member⟩ := List.mem_flatMap.mp member
  obtain ⟨_, side, payee⟩ := Fill.mem_payouts member
  obtain ⟨_, orders⟩ := plans.rests (fun _ _ other _ _ => other) (absent side)
  obtain ⟨order, other, trader, _⟩ := orders fill matched
  rw [payee, trader]
  exact other

/-- A market without orders of its own gives what the fills of a plan owe. -/
theorem held (plans : Planned market ledgers height budget book plan)
    (foreign : ∀ side, (book.heaps.get side).Rests side (·.trader ≠ market.address))
    {last : Sided RefusingToken}
    (run : Payout.payAll market.address ledgers plan.payouts = .paid last) (side : Side) :
    ((last.get side).token.balance market.address).toNat + owed plan.fills side =
      ((ledgers.get side).token.balance market.address).toNat := by
  have paid := Payout.balance_of_paid run side market.address
  rwa [if_pos rfl, Payout.totalTo_eq_zero (fun _ member => plans.payee_ne foreign member),
    Plan.payouts, totalOn_flatMap_payouts] at paid

theorem owner (plans : Planned market ledgers height budget book plan) (side : Side) :
    (plan.heaps.get side).owner = market.address :=
  (plans.path.frame side).1.trans (plans.owned side)

/-- The payouts of a plan are possible when its traders can be paid. -/
theorem payable (plans : Planned market ledgers height budget book plan)
    (deliverable : Deliverable market.address ledgers plan.fills) :
    Payout.Payable market.address ledgers plan.payouts := by
  refine ⟨?_, deliverable.accepted, ?_, ?_⟩
  · intro payout member
    obtain ⟨fill, _, member⟩ := List.mem_flatMap.mp member
    exact (Fill.mem_payouts member).1
  · intro side
    have enough := plans.covered side
    rw [Plan.payouts, totalOn_flatMap_payouts]
    omega
  · intro side owner other
    rw [Plan.payouts, totalTo_flatMap_payouts]
    exact deliverable.roomy side owner other

/-- The market under a plan still has its book, on the ledgers that the payouts leave. -/
theorem bookFor_commit (plans : Planned market ledgers height budget book plan)
    {last : Sided RefusingToken}
    (run : Payout.payAll market.address ledgers plan.payouts = .paid last) :
    (market.commit plan).bookFor last = .ok { book with heaps := plan.heaps } := by
  refine bookFor_eq_ok_iff.mpr ⟨?_, ?_⟩
  · simp only [commit, plans.bound, Option.map_some]
  · intro side
    exact (Payout.frame_of_payAll run rfl side).1.trans (plans.addresses side)

end Planned

/-- How a tick ends: it has no plan, or it ends as the run of its payouts does. -/
inductive TickEnd (market : Market) (ledgers : Sided RefusingToken) (height : UInt64)
    (budget : Option Budget) : Ticked RefusingToken → Prop
  | unplanned {error : Error} (failed : market.plan? ledgers height budget = .error error) :
      TickEnd market ledgers height budget ⟨.error error, market, ledgers⟩
  | early (idle : market.plan? ledgers height budget = .ok none) :
      TickEnd market ledgers height budget ⟨.ok (.idle (market.epochAt height)), market, ledgers⟩
  | cleared {plan : Plan} {last : Sided RefusingToken}
      (found : market.plan? ledgers height budget = .ok (some plan))
      (run : Payout.payAll market.address ledgers plan.payouts = .paid last) :
      TickEnd market ledgers height budget ⟨.ok plan.report, market.commit plan, last⟩
  | undone {plan : Plan} {last : Sided RefusingToken} {refused : Payout} {returned : List Payout}
      (found : market.plan? ledgers height budget = .ok (some plan))
      (run : Payout.payAll market.address ledgers plan.payouts = .undone last refused returned) :
      TickEnd market ledgers height budget
        ⟨.error (.transferRejected (refused.ledgerAddress last) refused.payee refused.amount),
          { market with claims := market.claims.retireReturned last returned }, last⟩
  | stuck {plan : Plan} {last : Sided RefusingToken} {kept : Payout}
      (found : market.plan? ledgers height budget = .ok (some plan))
      (run : Payout.payAll market.address ledgers plan.payouts = .stuck last kept) :
      TickEnd market ledgers height budget
        ⟨.error (.internal (.payoutNotReturned kept.amount kept.payee (kept.ledgerAddress last))),
          market, last⟩

theorem tick_end (market : Market) (ledgers : Sided RefusingToken) (height : UInt64)
    (budget : Option Budget) :
    TickEnd market ledgers height budget (market.tick ledgers height budget) := by
  unfold tick
  cases found : market.plan? ledgers height budget with
  | error error => exact .unplanned found
  | ok planning =>
    cases planning with
    | none => exact .early found
    | some plan =>
      cases run : Payout.payAll market.address ledgers plan.payouts with
      | paid last =>
        simp only [Plan.payouts] at run
        simp only [run]
        exact .cleared found run
      | undone last refused returned =>
        simp only [Plan.payouts] at run
        simp only [run]
        exact .undone found run
      | stuck last kept =>
        simp only [Plan.payouts] at run
        simp only [run]
        exact .stuck found run

/-- A tick whose payouts are all made succeeds. -/
theorem tick_of_paid {market : Market} {ledgers last : Sided RefusingToken} {height : UInt64}
    {budget : Option Budget} {plan : Plan}
    (found : market.plan? ledgers height budget = .ok (some plan))
    (run : Payout.payAll market.address ledgers plan.payouts = .paid last) :
    market.tick ledgers height budget = ⟨.ok plan.report, market.commit plan, last⟩ := by
  simp only [Plan.payouts] at run
  simp only [tick, found, run]

/-- A tick that succeeds has no plan, or all payouts of its plan were made. -/
theorem tick_of_ok {market : Market} {ledgers : Sided RefusingToken} {height : UInt64}
    {budget : Option Budget} {report : TickReport}
    (ended : (market.tick ledgers height budget).result = .ok report) :
    (market.plan? ledgers height budget = .ok none ∧ report = .idle (market.epochAt height) ∧
        market.tick ledgers height budget = ⟨.ok report, market, ledgers⟩) ∨
      ∃ plan last, market.plan? ledgers height budget = .ok (some plan) ∧
        Payout.payAll market.address ledgers plan.payouts = .paid last ∧ report = plan.report ∧
        market.tick ledgers height budget = ⟨.ok report, market.commit plan, last⟩ := by
  have shape := tick_end market ledgers height budget
  generalize market.tick ledgers height budget = ticked at shape ended
  cases shape with
  | unplanned => cases ended
  | undone => cases ended
  | stuck => cases ended
  | early idle =>
    cases ended
    exact .inl ⟨idle, rfl, rfl⟩
  | cleared found run =>
    cases ended
    exact .inr ⟨_, _, found, run, rfl, rfl⟩

/-- The report of a tick says whether the market clears at its height. -/
theorem gateOpen_of_ok {market : Market} {ledgers : Sided RefusingToken} {height : UInt64}
    {budget : Option Budget} {book : Book} {report : TickReport} (bound : market.book = some book)
    (ended : (market.tick ledgers height budget).result = .ok report) :
    report.gateOpen = market.gateOpen height := by
  rcases tick_of_ok ended with ⟨idle, rfl, _⟩ | ⟨plan, _, found, _, rfl, _⟩
  · exact ((plan?_eq_none_iff bound).mp idle).2.symm
  · exact (planned_of_bound bound found).gateOpen.symm

/-- The payouts that a tick made and took back. -/
def sentBack {L : Type u} [Ledger L] (market : Market) (ledgers : Sided L) (height : UInt64)
    (budget : Option Budget) : List Payout :=
  match market.plan? ledgers height budget with
  | .ok (some plan) => Payout.sentBack market.address ledgers plan.payouts
  | _ => []

end Market

end DoubleAuction
