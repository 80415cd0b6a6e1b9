import DoubleAuction.Matching.Clearing
import DoubleAuction.Matching.FillRoot
import DoubleAuction.Market
import DoubleAuction.Market.Payout

/-! # Ticks

A tick clears the crossing part of a market's book, once its first epoch has passed. It plans before
it pays: the book is cleared on the side, and the escrow left after paying is compared with what the
remaining orders commit. Only then are the fills paid, and only when all of them are paid is the
cleared book put in place. The one thing that can still fail is a payout, and then those before it
are returned.
-/

namespace DoubleAuction

/-- What a tick did. -/
structure TickReport where
  epoch : Epoch
  gateOpen : Bool
  fills : List Fill
  volume : UInt64
  moreWork : Bool
  fillRoot : Hash.Digest
  deriving DecidableEq, Repr

namespace TickReport

/-- The report of a call that came before the first clearing. -/
def idle (epoch : Epoch) : TickReport := ⟨epoch, false, [], 0, false, FillRoot.compute epoch []⟩

/-- Whether the root of a report belongs to its fills. -/
def verifies (report : TickReport) : Bool :=
  FillRoot.verify report.epoch report.fills report.fillRoot

end TickReport

/-- A clearing that its market can pay for. -/
structure Plan where
  epoch : Epoch
  fills : List Fill
  moreWork : Bool
  heaps : Sided KeyHeap
  /-- The first currency paid to sellers by this call. -/
  tickVolume : UInt64
  /-- The volume of the epoch with this call. -/
  volume : UInt64
  deriving DecidableEq, Repr

/-- The report of a plan that was carried out. -/
def Plan.report (plan : Plan) : TickReport :=
  ⟨plan.epoch, true, plan.fills, plan.tickVolume, plan.moreWork,
    FillRoot.compute plan.epoch plan.fills⟩

/-- What fills pay out of the escrow of a side. -/
def owed (fills : List Fill) (side : Side) : Nat :=
  sumOver (fun fill => (fill.paid side).toNat) fills

/-- The answer to a tick, with the market and the ledgers as it leaves them. -/
structure Ticked (L : Type u) where
  result : Except Error TickReport
  market : Market
  ledgers : Sided L

namespace Market

variable {L : Type u} [Ledger L]

/-- The volume that an epoch begins this call with. -/
def carriedVolume (market : Market) (epoch : Epoch) : UInt64 :=
  if epoch = market.volumeEpoch then market.volume else 0

/-- The volumes of this call and of the epoch with it. -/
def addVolume (market : Market) (epoch : Epoch) (paid : Nat) : Except Error (UInt64 × UInt64) :=
  if paid < UInt64.size then
    let carried := market.carriedVolume epoch
    let added : UInt64 := .ofNat paid
    if carried.toNat + paid < UInt64.size then .ok (added, carried + added)
    else .error (.internal (.epochVolumeTooWide carried added))
  else .error (.internal (.tickVolumeTooWide paid))

/-- Clears a book on the side and audits what paying for it would leave. Shortfalls in the payouts
are reported before shortfalls in what the remaining orders commit. -/
def planClearing (market : Market) (book : Book) (ledgers : Sided L) (epoch : Epoch)
    (budget : Budget) : Except Error Plan := do
  let clearing := clear book.heaps market.address budget
  let fills ← clearing.result
  let position (side : Side) : Except Error EscrowPosition :=
    EscrowPosition.afterPaying (ledgers.get side) market.address
      ((clearing.book.get side).committed side) (owed fills side)
  let first ← position .buy
  let second ← position .sell
  first.check
  second.check
  let (tickVolume, volume) ← market.addVolume epoch (owed fills .buy)
  return ⟨epoch, fills, clearing.moreWork, clearing.book, tickVolume, volume⟩

/-- The plan of a tick, or nothing before the first clearing. -/
def plan? (market : Market) (ledgers : Sided L) (height : UInt64) (budget : Option Budget) :
    Except Error (Option Plan) := do
  let book ← market.bookFor ledgers
  if market.gateOpen height then
    let budget := budget.getD market.defaultBudget
    return some (← market.planClearing book ledgers (market.epochAt height) budget)
  else return none

/-- Puts a paid plan in place. -/
def commit (market : Market) (plan : Plan) : Market :=
  { market with
    book := market.book.map fun book => { book with heaps := plan.heaps }
    volume := plan.volume
    volumeEpoch := plan.epoch }

/-- Clears crossing orders at a height, within a budget. -/
def tick (market : Market) (ledgers : Sided L) (height : UInt64) (budget : Option Budget) :
    Ticked L :=
  match market.plan? ledgers height budget with
  | .error error => ⟨.error error, market, ledgers⟩
  | .ok none => ⟨.ok (.idle (market.epochAt height)), market, ledgers⟩
  | .ok (some plan) =>
    match Payout.payAll market.address ledgers (plan.fills.flatMap Fill.payouts) with
    | .paid ledgers => ⟨.ok plan.report, market.commit plan, ledgers⟩
    | .undone ledgers refused returned =>
      ⟨.error (.transferRejected (refused.ledgerAddress ledgers) refused.payee refused.amount),
        { market with claims := market.claims.retireReturned ledgers returned }, ledgers⟩
    | .stuck ledgers kept =>
      ⟨.error (.internal (.payoutNotReturned kept.amount kept.payee (kept.ledgerAddress ledgers))),
        market, ledgers⟩

end Market

end DoubleAuction
