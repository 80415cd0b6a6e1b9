/-! # Reasons for rejecting an order -/

namespace DoubleAuction

/-- Why an order was not admitted. -/
inductive Rejection where
  /-- The ledger has made no transfer yet. -/
  | noDeposit
  /-- The latest transfer did not go through. -/
  | depositFailed
  /-- The latest transfer was made by someone else. -/
  | depositFromOther
  /-- The latest transfer did not pay the market. -/
  | depositToOther
  /-- The latest transfer already funds an order. -/
  | alreadyClaimed
  /-- The price is zero or does not fit its field. -/
  | invalidPrice
  /-- The deposit does not fit the quantity field. -/
  | quantityOutOfRange
  /-- The zero address cannot own an order. -/
  | zeroTrader
  deriving DecidableEq, Repr

def Rejection.label : Rejection → String
  | noDeposit => "NO_DEPOSIT"
  | depositFailed => "DEPOSIT_FAILED"
  | depositFromOther => "DEPOSIT_FROM_OTHER"
  | depositToOther => "DEPOSIT_TO_OTHER"
  | alreadyClaimed => "ALREADY_CLAIMED"
  | invalidPrice => "INVALID_PRICE"
  | quantityOutOfRange => "QUANTITY_OUT_OF_RANGE"
  | zeroTrader => "ZERO_TRADER"

end DoubleAuction
