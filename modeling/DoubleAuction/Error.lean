import DoubleAuction.Side
import DoubleAuction.Text.Quoted
import DoubleAuction.Address.Parse

/-! # Errors and their wording

An error is a structural failure: a value that does not fit its field, a broken invariant, a call on
the wrong ledger. Refusing an order or a transfer is an outcome, not an error. Every error has a
code, grouped by subject (1xx orders and keys, 2xx ledgers, 4xx market life cycle, 5xx matching,
8xx invariants, 9xx the rest), and one message that begins with it.
-/

namespace DoubleAuction

/-- The field that keeps a key from describing a live order. -/
inductive EmptyField where
  | trader
  | price
  | quantity
  deriving DecidableEq, Repr

/-- Why a configuration cannot run a market. -/
inductive ConfigFault where
  | noEpochLength
  | noMatches
  | referencePriceOutOfRange (price : UInt64)
  | zeroMarketAddress
  | sharedCurrency (ledger : Address)
  deriving DecidableEq, Repr

/-- What should never happen. -/
inductive InternalFault where
  | payoutTooWide (amount : Nat)
  | payoutExceedsEscrow (paid escrow : UInt64)
  | tickVolumeTooWide (volume : Nat)
  | epochVolumeTooWide (carried added : UInt64)
  | payoutNotReturned (amount : UInt64) (payee ledger : Address)
  deriving DecidableEq, Repr

/-- Everything that can go wrong. -/
inductive Error where
  | priceOutOfRange (price : UInt64)
  | quantityOutOfRange (quantity : Nat)
  | malformedKey (side : Side) (field : EmptyField) (key : Word)
  | unpricedBid
  | insufficientEscrow (ledger : Address) (needed available : Nat)
  | transferRejected (ledger payee : Address) (amount : UInt64)
  | ledgerMismatch (expected actual : Address)
  | alreadyInitialized
  | notInitialized
  | heapNotOwned (owner market : Address)
  | sharedHeap
  | notCrossing (bidPrice askPrice : UInt64)
  | heapOrderViolated (index : Nat)
  | escrowViolated (ledger : Address) (held committed : Nat)
  | internal (fault : InternalFault)
  | addressText (text : String) (fault : Address.TextFault)
  | unreadableConfig
  | config (fault : ConfigFault)
  deriving DecidableEq, Repr

namespace EmptyField

def label : EmptyField → String
  | trader => "zero trader"
  | price => "zero price"
  | quantity => "zero quantity"

end EmptyField

namespace Address.TextFault

def message : Address.TextFault → String
  | oddLength => "Odd number of digits"
  | wrongLength => "Invalid string length"
  | notADigit byte index =>
    s!"Invalid character {Text.quotedChar (Char.ofNat byte.toNat)} at position {index}"

end Address.TextFault

namespace ConfigFault

def message : ConfigFault → String
  | noEpochLength => "epoch_length must be > 0"
  | noMatches => "max_matches_per_tick must be > 0"
  | referencePriceOutOfRange price =>
    s!"reference_price {price} does not fit the 48-bit price field"
  | zeroMarketAddress => "market address must be non-zero"
  | sharedCurrency ledger => s!"currency ledgers must be distinct, both are {ledger}"

end ConfigFault

namespace InternalFault

def message : InternalFault → String
  | payoutTooWide amount => s!"payout {amount} exceeds u64"
  | payoutExceedsEscrow paid escrow => s!"payout {paid} exceeds escrow {escrow}"
  | tickVolumeTooWide volume => s!"tick volume {volume} overflows"
  | epochVolumeTooWide carried added => s!"epoch volume {carried} + {added} overflows"
  | payoutNotReturned amount payee ledger =>
    s!"could not revert payout of {amount} to {payee} on ledger {ledger}"

end InternalFault

namespace Error

/-- The number that groups errors by subject. -/
def code : Error → Nat
  | priceOutOfRange .. => 100
  | quantityOutOfRange .. => 101
  | malformedKey .. | unpricedBid => 102
  | insufficientEscrow .. => 200
  | transferRejected .. => 201
  | ledgerMismatch .. => 202
  | alreadyInitialized => 400
  | notInitialized => 401
  | heapNotOwned .. => 402
  | sharedHeap => 403
  | notCrossing .. => 500
  | heapOrderViolated .. => 800
  | escrowViolated .. => 801
  | internal .. => 900
  | addressText .. | unreadableConfig => 901
  | config .. => 902

/-- What went wrong, without the code. -/
def description : Error → String
  | priceOutOfRange price => s!"Price {price} does not fit the 48-bit price field"
  | quantityOutOfRange quantity => s!"Quantity {quantity} does not fit the 48-bit quantity field"
  | malformedKey side field key =>
    s!"Malformed {side.label} key: {field.label} in key 0x{Hex.shortest key.toNat}"
  | unpricedBid => s!"Malformed {Side.buy.label} key: zero bid price cannot settle"
  | insufficientEscrow ledger needed available =>
    s!"Insufficient escrow on ledger {ledger}: need {needed}, have {available}"
  | transferRejected ledger payee amount =>
    s!"Transfer of {amount} to {payee} rejected by ledger {ledger}"
  | ledgerMismatch expected actual => s!"Ledger mismatch: expected {expected}, got {actual}"
  | alreadyInitialized => "Market already initialised"
  | notInitialized => "Market not initialised"
  | heapNotOwned owner market =>
    s!"Heap is owned by {owner}, market {market} cannot take it over"
  | sharedHeap => "Buy and sell heaps must be distinct"
  | notCrossing bidPrice askPrice => s!"Orders do not cross: bid {bidPrice} < ask {askPrice}"
  | heapOrderViolated index => s!"Heap invariant violated at index {index}"
  | escrowViolated ledger held committed =>
    "Escrow invariant violation: " ++
      s!"ledger {ledger}: market holds {held} but resting orders commit {committed}"
  | internal fault => s!"Internal error: {fault.message}"
  | addressText text fault =>
    s!"Serialization error: address {Text.quoted text}: {fault.message}"
  | unreadableConfig => "Serialization error: the text is not a configuration"
  | config fault => s!"Configuration error: {fault.message}"

/-- The message shown for an error. -/
def message (error : Error) : String := s!"CD_ERR_{error.code}: {error.description}"

end Error

/-- Reads an address; a fault is reported with the whole text. -/
def Address.ofText (text : String) : Except Error Address :=
  (Address.parse text).mapError (.addressText text)

end DoubleAuction
