import DoubleAuction.Error

/-! # Orders

An order offers an escrowed quantity at a limit price. Prices and quantities of live orders are
below `2 ^ 48`, the width of their fields in an order key; `Order.create` refuses others.
-/

namespace DoubleAuction

/-- Prices and quantities of live orders are below this limit. -/
def fieldLimit : Nat := 0x1000000000000

/-- An order. The price is the plain limit price on both sides, and the quantity is the remaining
escrow: first currency for a bid, second currency for an ask. -/
structure Order where
  side : Side
  price : UInt64
  quantity : UInt64
  trader : Address
  deriving DecidableEq, Repr

/-- Refuses prices that do not fit their field. -/
def checkPrice (price : UInt64) : Except Error Unit :=
  if price.toNat < fieldLimit then .ok () else .error (.priceOutOfRange price)

/-- Refuses quantities that do not fit their field. -/
def checkQuantity (quantity : Nat) : Except Error Unit :=
  if quantity < fieldLimit then .ok () else .error (.quantityOutOfRange quantity)

namespace Order

/-- An order whose price and quantity fit their fields; the price is judged first. -/
def create (side : Side) (price quantity : UInt64) (trader : Address) : Except Error Order := do
  checkPrice price
  checkQuantity quantity.toNat
  return ⟨side, price, quantity, trader⟩

/-- The same order with another remaining quantity. -/
def withQuantity (order : Order) (quantity : UInt64) : Order := { order with quantity }

/-- The first field that keeps an order from being live: trader, then price, then quantity. -/
def emptyField? (order : Order) : Option EmptyField :=
  if order.trader = .zero then some .trader
  else if order.price = 0 then some .price
  else if order.quantity = 0 then some .quantity
  else none

/-- A short announcement: side, quantity, price and the first bytes of the trader. -/
def announce (order : Order) : String :=
  s!"{order.side.label} {order.quantity}@{order.price} by {order.trader.short}"

end Order

end DoubleAuction
