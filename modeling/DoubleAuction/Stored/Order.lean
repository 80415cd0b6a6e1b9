import DoubleAuction.Market.Admission
import DoubleAuction.Matching.Fill
import DoubleAuction.Stored

/-! # Stored orders, fills and admissions -/

namespace DoubleAuction.Stored

open Json (ofMembers)

instance : Stored Side where
  toJson side := .string (some (match side with
    | .buy => "Buy"
    | .sell => "Sell"))
  ofJson? json := json.plainVariant?.bind fun
    | "Buy" => some .buy
    | "Sell" => some .sell
    | _ => none

instance : Stored Outcome where
  toJson outcome := .string (some (match outcome with
    | .bidFilled => "BidFilled"
    | .askFilled => "AskFilled"
    | .bothFilled => "BothFilled"))
  ofJson? json := json.plainVariant?.bind fun
    | "BidFilled" => some .bidFilled
    | "AskFilled" => some .askFilled
    | "BothFilled" => some .bothFilled
    | _ => none

instance : Stored Rejection where
  toJson reason := .string (some (match reason with
    | .noDeposit => "NoDeposit"
    | .depositFailed => "DepositFailed"
    | .depositFromOther => "DepositFromOther"
    | .depositToOther => "DepositToOther"
    | .alreadyClaimed => "AlreadyClaimed"
    | .invalidPrice => "InvalidPrice"
    | .quantityOutOfRange => "QuantityOutOfRange"
    | .zeroTrader => "ZeroTrader"))
  ofJson? json := json.plainVariant?.bind fun
    | "NoDeposit" => some .noDeposit
    | "DepositFailed" => some .depositFailed
    | "DepositFromOther" => some .depositFromOther
    | "DepositToOther" => some .depositToOther
    | "AlreadyClaimed" => some .alreadyClaimed
    | "InvalidPrice" => some .invalidPrice
    | "QuantityOutOfRange" => some .quantityOutOfRange
    | "ZeroTrader" => some .zeroTrader
    | _ => none

instance : Stored Order where
  toJson order := ofMembers [("price", toJson order.price), ("quantity", toJson order.quantity),
    ("side", toJson order.side), ("trader", toJson order.trader)]
  ofJson? json := do
    let [side, price, quantity, trader] ← json.record? ["side", "price", "quantity", "trader"]
      | none
    return {
      side := ← required? side, price := ← required? price
      quantity := ← required? quantity, trader := ← required? trader }

instance : Stored Fill where
  toJson fill := ofMembers [
    ("ask_price", toJson fill.askPrice), ("ask_residual", toJson fill.askResidual),
    ("bid_price", toJson fill.bidPrice), ("bid_residual", toJson fill.bidResidual),
    ("buyer", toJson fill.buyer), ("outcome", toJson fill.outcome),
    ("retained_first", toJson fill.retainedFirst), ("retained_second", toJson fill.retainedSecond),
    ("seller", toJson fill.seller), ("to_buyer", toJson fill.toBuyer),
    ("to_seller", toJson fill.toSeller)]
  ofJson? json := do
    let [outcome, buyer, seller, bidPrice, askPrice, toSeller, toBuyer, bidResidual, askResidual,
        retainedFirst, retainedSecond] ← json.record? ["outcome", "buyer", "seller", "bid_price",
          "ask_price", "to_seller", "to_buyer", "bid_residual", "ask_residual", "retained_first",
          "retained_second"]
      | none
    return {
      outcome := ← required? outcome, buyer := ← required? buyer, seller := ← required? seller
      bidPrice := ← required? bidPrice, askPrice := ← required? askPrice
      toSeller := ← required? toSeller, toBuyer := ← required? toBuyer
      bidResidual := ← required? bidResidual, askResidual := ← required? askResidual
      retainedFirst := ← required? retainedFirst, retainedSecond := ← required? retainedSecond }

instance : Stored Admission where
  toJson
    | .accepted order key =>
      ofMembers [("Accepted", ofMembers [("key", toJson key), ("order", toJson order)])]
    | .rejected reason => ofMembers [("Rejected", toJson reason)]
  ofJson? json := do
    match ← json.variant? with
    | ("Accepted", some payload) =>
      let [order, key] ← payload.record? ["order", "key"] | none
      return .accepted (← required? order) (← required? key)
    | ("Rejected", some payload) => return .rejected (← ofJson? payload)
    | _ => none

end DoubleAuction.Stored
