import DoubleAuction.Order

/-! # Fills

A fill records one match: what each trader is paid out of the market's escrow, what stays resting,
and what the market keeps when both orders close with escrow to spare.
-/

namespace DoubleAuction

/-- Which orders a fill closes. -/
inductive Outcome where
  | bidFilled
  | askFilled
  | bothFilled
  deriving DecidableEq, Repr

def Outcome.label : Outcome → String
  | bidFilled => "BID_FILLED"
  | askFilled => "ASK_FILLED"
  | bothFilled => "BOTH_FILLED"

/-- One settled pair. Amounts paid to sellers, bid residuals and `retainedFirst` are first currency;
amounts paid to buyers, ask residuals and `retainedSecond` are second currency. -/
structure Fill where
  outcome : Outcome
  buyer : Address
  seller : Address
  bidPrice : UInt64
  askPrice : UInt64
  toSeller : UInt64
  toBuyer : UInt64
  bidResidual : UInt64
  askResidual : UInt64
  retainedFirst : UInt64
  retainedSecond : UInt64
  deriving DecidableEq, Repr

namespace Fill

/-- The trader whose order on a side took part. -/
def trader (fill : Fill) : Side → Address
  | .buy => fill.buyer
  | .sell => fill.seller

/-- The limit price of the order on a side. -/
def price (fill : Fill) : Side → UInt64
  | .buy => fill.bidPrice
  | .sell => fill.askPrice

/-- What is paid out of the escrow of a side, to the trader of the other side. -/
def paid (fill : Fill) : Side → UInt64
  | .buy => fill.toSeller
  | .sell => fill.toBuyer

/-- What stays resting of the order on a side; zero when it closes. -/
def residual (fill : Fill) : Side → UInt64
  | .buy => fill.bidResidual
  | .sell => fill.askResidual

/-- What the market keeps of the escrow of a side. -/
def retained (fill : Fill) : Side → UInt64
  | .buy => fill.retainedFirst
  | .sell => fill.retainedSecond

/-- Whether the order on a side keeps resting. -/
def rests (fill : Fill) (side : Side) : Bool := fill.residual side ≠ 0

end Fill

end DoubleAuction
