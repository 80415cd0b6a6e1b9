import DoubleAuction.Matching.Budget
import DoubleAuction.Market.Claims
import DoubleAuction.Market.Config
import DoubleAuction.Market.Epoch
import DoubleAuction.Market.Escrow

/-! # Markets

A market is a periodic double auction between two currencies. Bids escrow the first currency and are
priced in the second; asks escrow the second. A market is created without a book; `init` binds two
heaps and two currencies to it for good.
-/

namespace DoubleAuction

/-- A market. The volume is the first currency paid to sellers during its epoch. -/
structure Market where
  address : Address
  config : Config
  anchor : UInt64
  book : Option Book
  claims : Claims
  volume : UInt64
  volumeEpoch : Epoch
  deriving DecidableEq, Repr

/-- Refuses a ledger other than the expected one. -/
def checkLedger {L : Type u} [Ledger L] (expected : Address) (ledger : L) : Except Error Unit :=
  if Ledger.address ledger = expected then .ok ()
  else .error (.ledgerMismatch expected (Ledger.address ledger))

namespace Market

/-- A market without a book, whose epochs count from the anchor height. -/
def create (address : Address) (config : Config) (anchor : UInt64) : Except Error Market := do
  config.check
  if address = .zero then throw (.config .zeroMarketAddress)
  return ⟨address, config, anchor, none, .empty, 0, ⟨0⟩⟩

/-- Accepts heaps that belong to the market or to the caller. -/
def checkOwner (market caller : Address) (heap : KeyHeap) : Except Error Unit :=
  if heap.owner = market ∨ heap.owner = caller then .ok ()
  else .error (.heapNotOwned heap.owner market)

/-- Makes the market the owner of a heap that belongs to it or to the caller. -/
def takeOver (market caller : Address) (heap : KeyHeap) : KeyHeap :=
  if heap.owner = market then heap else heap.setOwner caller market

/-- Binds heaps and currencies and takes over both heaps. Both are judged before either changes
hands. -/
def init (market : Market) (caller : Address) (heaps : Sided KeyHeap) (currencies : Sided Address) :
    Except Error Market := do
  if market.book.isSome then throw .alreadyInitialized
  if heaps.buy.id = heaps.sell.id then throw .sharedHeap
  if currencies.buy = currencies.sell then throw (.config (.sharedCurrency currencies.buy))
  checkOwner market.address caller heaps.buy
  checkOwner market.address caller heaps.sell
  return { market with book := some ⟨heaps.map (takeOver market.address caller), currencies⟩ }

/-- The height at which the first clearing may run, or the last height there is. -/
def opensAt (market : Market) : UInt64 :=
  let opening := market.anchor + market.config.epochLength
  if opening < market.anchor then .ofNat (UInt64.size - 1) else opening

/-- Whether a call at a height may clear. -/
def gateOpen (market : Market) (height : UInt64) : Bool := market.opensAt ≤ height

/-- The epoch of a height. -/
def epochAt (market : Market) (height : UInt64) : Epoch :=
  .atHeight market.anchor market.config.epochLength height

/-- The budget of a call that brings none. -/
def defaultBudget (market : Market) : Budget := ⟨market.config.maxMatches⟩

variable {L : Type u} [Ledger L]

/-- The book of a market, if the ledgers are those of its currencies. -/
def bookFor (market : Market) (ledgers : Sided L) : Except Error Book := do
  let some book := market.book | throw .notInitialized
  checkLedger book.currencies.buy ledgers.buy
  checkLedger book.currencies.sell ledgers.sell
  return book

/-- What the market holds and what its orders commit, on both ledgers. -/
def positions (market : Market) (ledgers : Sided L) : Except Error (Sided EscrowPosition) := do
  let book ← market.bookFor ledgers
  return .ofFn fun side =>
    .of (ledgers.get side) market.address (book.committed side)

end Market

end DoubleAuction
