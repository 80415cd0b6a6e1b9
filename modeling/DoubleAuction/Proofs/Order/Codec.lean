import DoubleAuction.Order.Key

/-! # Packing and unpacking orders

A key holds its three fields side by side, so each is read back as it was written
(`price_packed`, `quantity_packed`, `trader_packed`), and the fields are the digits of the key as a
number (`toNat_pack`). An order whose price and quantity fit their fields comes back from its key
unchanged (`ofKey_key`), every order that comes out of a key fits them, and the key of that order is
the one it came from (`key_ofKey`).
-/

namespace DoubleAuction.Order

section Fields

variable (price quantity : BitVec 48) (trader : BitVec 160)

/-- Three fields as one word. -/
def pack : Word := price ++ quantity ++ trader

theorem price_packed : (pack price quantity trader).extractLsb' 208 48 = price := by
  have upper : BitVec.extractLsb' 208 48 ((price ++ quantity) ++ trader) =
      BitVec.extractLsb' 48 48 (price ++ quantity) :=
    BitVec.extractLsb'_append_eq_of_le (by decide)
  exact upper.trans BitVec.extractLsb'_append_eq_left

theorem quantity_packed : (pack price quantity trader).extractLsb' 160 48 = quantity := by
  have upper : BitVec.extractLsb' 160 48 ((price ++ quantity) ++ trader) =
      BitVec.extractLsb' 0 48 (price ++ quantity) :=
    BitVec.extractLsb'_append_eq_of_le (by decide)
  exact upper.trans BitVec.extractLsb'_append_eq_right

theorem trader_packed : Address.ofWord (pack price quantity trader) = ⟨trader⟩ :=
  congrArg Address.mk (BitVec.setWidth_append_eq_right (a := price ++ quantity))

theorem toNat_pack :
    (pack price quantity trader).toNat =
      (price.toNat <<< 48 + quantity.toNat) <<< 160 + trader.toNat := by
  have lower := trader.isLt
  have middle := quantity.isLt
  simp only [pack, BitVec.toNat_append]
  rw [← Nat.shiftLeft_add_eq_or_of_lt lower, ← Nat.shiftLeft_add_eq_or_of_lt middle]

end Fields

/-- A word is put together from its fields. -/
theorem pack_fields (key : Key) :
    pack (key.extractLsb' 208 48) (key.extractLsb' 160 48) (key.setWidth 160) = key := by
  apply BitVec.eq_of_toNat_eq
  have bound := key.isLt
  simp only [toNat_pack, BitVec.extractLsb'_toNat, BitVec.toNat_setWidth]
  omega

theorem key_eq_pack (order : Order) :
    order.key = pack (packPrice order.side (order.price.toBitVec.setWidth 48))
      (order.quantity.toBitVec.setWidth 48) order.trader.word := rfl

/-- A number that fits 48 bits survives being cut to them. -/
theorem ofBitVec_setWidth {value : UInt64} (fits : value.toNat < fieldLimit) :
    UInt64.ofBitVec ((value.toBitVec.setWidth 48).setWidth 64) = value := by
  apply UInt64.toNat_inj.mp
  have small : value.toNat < 2 ^ 48 := fits
  simp only [UInt64.toNat_ofBitVec, BitVec.toNat_setWidth, UInt64.toNat_toBitVec]
  omega

/-- An order whose price and quantity fit their fields is read back from its key. -/
theorem ofKey_key {order : Order} (price : order.price.toNat < fieldLimit)
    (quantity : order.quantity.toNat < fieldLimit) : ofKey order.side order.key = order := by
  obtain ⟨side, _, _, _⟩ := order
  simp only [ofKey, key_eq_pack, price_packed, quantity_packed, trader_packed, packPrice_packPrice,
    ofBitVec_setWidth price, ofBitVec_setWidth quantity]

/-- Every key is the key of the order that it describes. -/
theorem key_ofKey (side : Side) (key : Key) : (ofKey side key).key = key := by
  have narrow (field : BitVec 48) : (field.setWidth 64).setWidth 48 = field := by
    rw [BitVec.setWidth_setWidth_of_le _ (by decide), BitVec.setWidth_eq]
  simp only [key_eq_pack, ofKey, narrow, packPrice_packPrice]
  exact pack_fields key

theorem ofKey_price_lt (side : Side) (key : Key) : (ofKey side key).price.toNat < fieldLimit := by
  have bound := (packPrice side (key.extractLsb' 208 48)).isLt
  simp only [ofKey, UInt64.toNat_ofBitVec, BitVec.toNat_setWidth]
  exact Nat.lt_of_le_of_lt (Nat.mod_le _ _) bound

theorem ofKey_quantity_lt (side : Side) (key : Key) :
    (ofKey side key).quantity.toNat < fieldLimit := by
  have bound := (key.extractLsb' 160 48).isLt
  simp only [ofKey, UInt64.toNat_ofBitVec, BitVec.toNat_setWidth]
  exact Nat.lt_of_le_of_lt (Nat.mod_le _ _) bound

/-- An order that came out of a key is read back with any smaller quantity. -/
theorem ofKey_withQuantity (side : Side) (key : Key) {quantity : UInt64}
    (less : quantity ≤ (ofKey side key).quantity) :
    ofKey side ((ofKey side key).withQuantity quantity).key =
      (ofKey side key).withQuantity quantity := by
  have fits : ((ofKey side key).withQuantity quantity).quantity.toNat < fieldLimit :=
    Nat.lt_of_le_of_lt (UInt64.le_iff_toNat_le.mp less) (ofKey_quantity_lt side key)
  have priced : ((ofKey side key).withQuantity quantity).price.toNat < fieldLimit :=
    ofKey_price_lt side key
  exact ofKey_key priced fits

/-- A live key is one whose order lacks nothing. -/
theorem ofLiveKey_eq_ok_iff {side : Side} {key : Key} {order : Order} :
    ofLiveKey side key = .ok order ↔
      (ofKey side key).emptyField? = none ∧ order = ofKey side key := by
  simp only [ofLiveKey]
  cases (ofKey side key).emptyField? with
  | none => simp [eq_comm]
  | some field => simp

/-- A key that is not live is refused for the first field that its order lacks. -/
theorem ofLiveKey_eq_error_iff {side : Side} {key : Key} {error : Error} :
    ofLiveKey side key = .error error ↔
      ∃ field, (ofKey side key).emptyField? = some field ∧
        error = .malformedKey side field key := by
  simp only [ofLiveKey]
  cases (ofKey side key).emptyField? with
  | none => simp
  | some field => simp [eq_comm]

theorem emptyField?_eq_none_iff {order : Order} :
    order.emptyField? = none ↔ order.trader ≠ .zero ∧ order.price ≠ 0 ∧ order.quantity ≠ 0 := by
  unfold emptyField?
  split
  case isTrue trader => simp [trader]
  case isFalse trader =>
    split
    case isTrue price => simp [price]
    case isFalse price =>
      split
      case isTrue quantity => simp [quantity]
      case isFalse quantity => simp [trader, price, quantity]

/-- A live order stays live with less left of it. -/
theorem emptyField?_withQuantity {order : Order} {quantity : UInt64}
    (live : order.emptyField? = none) (positive : quantity ≠ 0) :
    (order.withQuantity quantity).emptyField? = none := by
  obtain ⟨trader, price, _⟩ := emptyField?_eq_none_iff.mp live
  exact emptyField?_eq_none_iff.mpr ⟨trader, price, positive⟩

end DoubleAuction.Order
