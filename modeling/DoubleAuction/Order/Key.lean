import DoubleAuction.Order

/-! # Order keys

A resting order is one 256-bit key: the price in the top 48 bits, the remaining escrow in the next
48, the trader in the low 160. The key of a bid holds the negated price, so on both sides the
smaller key is the better order: a better price first, then a smaller quantity, then a smaller
trader.
-/

namespace DoubleAuction

/-- The packed form of an order. -/
abbrev Key := Word

namespace Order

/-- The price as a key holds it. Negation turns a higher bid into a smaller field. -/
def packPrice : Side → BitVec 48 → BitVec 48
  | .buy, price => -price
  | .sell, price => price

/-- Packing a price twice gives it back, so the same function unpacks. -/
@[simp] theorem packPrice_packPrice (side : Side) (price : BitVec 48) :
    packPrice side (packPrice side price) = price := by
  cases side <;> simp [packPrice]

/-- The key of an order. Bits of price and quantity above their fields are dropped. -/
def key (order : Order) : Key :=
  packPrice order.side (order.price.toBitVec.setWidth 48) ++
    order.quantity.toBitVec.setWidth 48 ++ order.trader.word

/-- The key of an order with the given fields, if price and quantity fit theirs. -/
def encode (side : Side) (price quantity : UInt64) (trader : Address) : Except Error Key :=
  (create side price quantity trader).map key

/-- The order that a key describes; every word describes one. -/
def ofKey (side : Side) (key : Key) : Order where
  side
  price := .ofBitVec ((packPrice side (key.extractLsb' 208 48)).setWidth 64)
  quantity := .ofBitVec ((key.extractLsb' 160 48).setWidth 64)
  trader := .ofWord key

/-- The order of a key that must describe a live one. -/
def ofLiveKey (side : Side) (key : Key) : Except Error Order :=
  let order := ofKey side key
  match order.emptyField? with
  | some field => .error (.malformedKey side field key)
  | none => .ok order

end Order

end DoubleAuction
