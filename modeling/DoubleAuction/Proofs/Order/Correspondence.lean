import DoubleAuction.Proofs.Order.Codec

/-! # Orders and keys correspond

On each side every word is the key of one order whose price and quantity fit their fields, and such
an order is read back from its key. An order that does not fit shares its key with the one that has
the rest of its price and quantity (`reduces_ofKey_key`), so it is not read back; `encode` refuses
just these orders. The live keys are the keys of the live orders (`ofLiveKey_eq_ok_iff_key`).
-/

namespace DoubleAuction.Order

/-- Price and quantity of an order fit their fields. -/
structure Fits (order : Order) : Prop where
  price : order.price.toNat < fieldLimit
  quantity : order.quantity.toNat < fieldLimit

/-- An order is another with price and quantity reduced modulo the width of their fields. -/
structure Reduces (order reduced : Order) : Prop where
  side : reduced.side = order.side
  price : reduced.price.toNat = order.price.toNat % fieldLimit
  quantity : reduced.quantity.toNat = order.quantity.toNat % fieldLimit
  trader : reduced.trader = order.trader

theorem fits_ofKey (side : Side) (key : Key) : (ofKey side key).Fits :=
  ⟨ofKey_price_lt side key, ofKey_quantity_lt side key⟩

/-- A number that is cut to 48 bits is reduced modulo their limit. -/
theorem toNat_ofBitVec_setWidth (value : UInt64) :
    (UInt64.ofBitVec ((value.toBitVec.setWidth 48).setWidth 64)).toNat =
      value.toNat % fieldLimit := by
  simp only [UInt64.toNat_ofBitVec, BitVec.toNat_setWidth, UInt64.toNat_toBitVec, fieldLimit]
  omega

/-- The key of any order describes that order with price and quantity reduced. -/
theorem reduces_ofKey_key (order : Order) : Reduces order (ofKey order.side order.key) := by
  obtain ⟨side, price, quantity, trader⟩ := order
  simp only [ofKey, key_eq_pack, price_packed, quantity_packed, trader_packed, packPrice_packPrice]
  exact ⟨rfl, toNat_ofBitVec_setWidth price, toNat_ofBitVec_setWidth quantity, rfl⟩

/-- An order is read back from its key exactly if it fits. -/
theorem ofKey_key_eq_iff {order : Order} : ofKey order.side order.key = order ↔ order.Fits := by
  constructor
  · intro same
    rw [← same]
    exact fits_ofKey order.side order.key
  · intro fits
    exact ofKey_key fits.price fits.quantity

/-- `encode` judges the price first, then the quantity. -/
theorem encode_eq (side : Side) (price quantity : UInt64) (trader : Address) :
    encode side price quantity trader =
      if fieldLimit ≤ price.toNat then .error (.priceOutOfRange price)
      else if fieldLimit ≤ quantity.toNat then .error (.quantityOutOfRange quantity.toNat)
      else .ok (Order.mk side price quantity trader).key := by
  by_cases wide : fieldLimit ≤ price.toNat
  · simp only [encode, create, checkPrice, Nat.not_lt_of_le wide, wide, ↓reduceIte]
    rfl
  · by_cases wideQuantity : fieldLimit ≤ quantity.toNat
    · simp only [encode, create, checkPrice, checkQuantity, Nat.lt_of_not_le wide,
        Nat.not_lt_of_le wideQuantity, wide, wideQuantity, ↓reduceIte]
      rfl
    · simp only [encode, create, checkPrice, checkQuantity, Nat.lt_of_not_le wide,
        Nat.lt_of_not_le wideQuantity, wide, wideQuantity, ↓reduceIte]
      rfl

/-- The live keys of a side are the keys of its live orders that fit. -/
theorem ofLiveKey_eq_ok_iff_key {side : Side} {key : Key} {order : Order} :
    ofLiveKey side key = .ok order ↔
      order.side = side ∧ order.Fits ∧ order.emptyField? = none ∧ order.key = key := by
  rw [ofLiveKey_eq_ok_iff]
  constructor
  · rintro ⟨live, rfl⟩
    exact ⟨rfl, fits_ofKey side key, live, key_ofKey side key⟩
  · rintro ⟨rfl, fits, live, rfl⟩
    rw [ofKey_key fits.price fits.quantity]
    exact ⟨live, rfl⟩

/-- On each side keys and orders that fit correspond one to one, other orders are reduced by their
keys and refused by `encode`, and live keys are those of live orders. -/
theorem keys_correspond :
    (∀ order : Order, ofKey order.side order.key = order ↔ order.Fits) ∧
      (∀ side key, (ofKey side key).side = side ∧ (ofKey side key).Fits ∧
        (ofKey side key).key = key) ∧
      (∀ order, Reduces order (ofKey order.side order.key)) ∧
      (∀ side price quantity trader, encode side price quantity trader =
        if fieldLimit ≤ price.toNat then .error (.priceOutOfRange price)
        else if fieldLimit ≤ quantity.toNat then .error (.quantityOutOfRange quantity.toNat)
        else .ok (Order.mk side price quantity trader).key) ∧
      ∀ side key order, ofLiveKey side key = .ok order ↔
        order.side = side ∧ order.Fits ∧
          (order.price ≠ 0 ∧ order.quantity ≠ 0 ∧ order.trader ≠ .zero) ∧ order.key = key := by
  refine ⟨fun order => ofKey_key_eq_iff, ?_, reduces_ofKey_key, encode_eq, ?_⟩
  · intro side key
    exact ⟨rfl, fits_ofKey side key, key_ofKey side key⟩
  · intro side key order
    rw [ofLiveKey_eq_ok_iff_key, emptyField?_eq_none_iff]
    constructor
    · rintro ⟨same, fits, ⟨trader, price, quantity⟩, packed⟩
      exact ⟨same, fits, ⟨price, quantity, trader⟩, packed⟩
    · rintro ⟨same, fits, ⟨price, quantity, trader⟩, packed⟩
      exact ⟨same, fits, ⟨trader, price, quantity⟩, packed⟩

end DoubleAuction.Order
