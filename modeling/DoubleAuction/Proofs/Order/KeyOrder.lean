import Mathlib.Order.WellFounded
import DoubleAuction.Proofs.Bytes
import DoubleAuction.Proofs.Order.Correspondence
import DoubleAuction.Proofs.Order.Priority

/-! # The order of keys is the priority of orders

One comparison of keys decides by price first, then by quantity, then by trader
(`key_lt_iff_precedes`): the fields of a key are its digits, and negation turns the prices of bids
around. Prices must not be zero, since the negation of zero is zero. Traders are compared as
numbers, which is also how their bytes compare (`Address.lt_iff_bytes_lt`).
-/

namespace DoubleAuction

namespace Address

/-- Addresses are in the order of the words that they extend to. -/
theorem lt_iff_toWord_lt {a b : Address} : a < b ↔ a.toWord < b.toWord := by
  rw [lt_iff_toNat_lt, BitVec.lt_def, toWord, toWord, BitVec.toNat_setWidth_of_le (by decide),
    BitVec.toNat_setWidth_of_le (by decide)]

end Address

/-- A price is better than another on a side: higher for a bid, lower for an ask. -/
def Side.Better : Side → UInt64 → UInt64 → Prop
  | .buy, price, other => other < price
  | .sell, price, other => price < other

theorem Side.noBetter_iff {side : Side} {price other : UInt64} :
    side.NoBetter price other ↔ ¬ side.Better price other := by
  cases side <;> exact UInt64.not_lt.symm

namespace Order

/-- An order comes before another of its side: at a better price, with less quantity at the same
price, or by the smaller trader. -/
def Precedes (order other : Order) : Prop :=
  order.side.Better order.price other.price ∨
    order.price = other.price ∧ (order.quantity < other.quantity ∨
      order.quantity = other.quantity ∧ order.trader < other.trader)

/-- The price field of a key, for a price that fits it. -/
theorem toNat_packPrice {side : Side} {price : UInt64} (priced : price ≠ 0)
    (fits : price.toNat < fieldLimit) :
    (packPrice side (price.toBitVec.setWidth 48)).toNat =
      match side with
      | .buy => fieldLimit - price.toNat
      | .sell => price.toNat := by
  have positive : price.toNat ≠ 0 := fun zero => priced (UInt64.toNat_inj.mp zero)
  dsimp only [fieldLimit] at fits
  cases side with
  | buy =>
    simp only [packPrice, BitVec.toNat_neg, BitVec.toNat_setWidth, UInt64.toNat_toBitVec,
      fieldLimit]
    omega
  | sell =>
    simp only [packPrice, BitVec.toNat_setWidth, UInt64.toNat_toBitVec]
    omega

/-- Price fields are ordered as prices are better. -/
theorem packPrice_lt_iff {side : Side} {price other : UInt64} (priced : price ≠ 0)
    (otherPriced : other ≠ 0) (fits : price.toNat < fieldLimit)
    (otherFits : other.toNat < fieldLimit) :
    (packPrice side (price.toBitVec.setWidth 48)).toNat <
        (packPrice side (other.toBitVec.setWidth 48)).toNat ↔ side.Better price other := by
  rw [toNat_packPrice priced fits, toNat_packPrice otherPriced otherFits]
  cases side with
  | buy =>
    rw [Side.Better, UInt64.lt_iff_toNat_lt]
    dsimp only
    omega
  | sell => exact UInt64.lt_iff_toNat_lt.symm

/-- The price field determines the price. -/
theorem packPrice_eq_iff {side : Side} {price other : UInt64} (priced : price ≠ 0)
    (otherPriced : other ≠ 0) (fits : price.toNat < fieldLimit)
    (otherFits : other.toNat < fieldLimit) :
    (packPrice side (price.toBitVec.setWidth 48)).toNat =
        (packPrice side (other.toBitVec.setWidth 48)).toNat ↔ price = other := by
  rw [toNat_packPrice priced fits, toNat_packPrice otherPriced otherFits, ← UInt64.toNat_inj]
  cases side with
  | buy =>
    dsimp only
    omega
  | sell => exact Iff.rfl

/-- Words of three fields are compared field by field. -/
theorem pack_lt_iff (price quantity otherPrice otherQuantity : BitVec 48)
    (trader otherTrader : BitVec 160) :
    pack price quantity trader < pack otherPrice otherQuantity otherTrader ↔
      price.toNat < otherPrice.toNat ∨ price.toNat = otherPrice.toNat ∧
        (quantity.toNat < otherQuantity.toNat ∨ quantity.toNat = otherQuantity.toNat ∧
          trader.toNat < otherTrader.toNat) := by
  have quantityBound := quantity.isLt
  have otherQuantityBound := otherQuantity.isLt
  have traderBound := trader.isLt
  have otherTraderBound := otherTrader.isLt
  rw [BitVec.lt_def, toNat_pack, toNat_pack]
  omega

/-- The order of keys is the priority of orders. -/
theorem key_lt_iff_precedes {order other : Order} (same : order.side = other.side)
    (priced : order.price ≠ 0) (otherPriced : other.price ≠ 0) (fits : order.Fits)
    (otherFits : other.Fits) : order.key < other.key ↔ order.Precedes other := by
  have whole {quantity : UInt64} (small : quantity.toNat < fieldLimit) :
      (quantity.toBitVec.setWidth 48).toNat = quantity.toNat := Nat.mod_eq_of_lt small
  rw [key_eq_pack, key_eq_pack, pack_lt_iff, ← same,
    packPrice_lt_iff priced otherPriced fits.price otherFits.price,
    packPrice_eq_iff priced otherPriced fits.price otherFits.price, whole fits.quantity,
    whole otherFits.quantity, UInt64.toNat_inj]
  exact Iff.rfl

/-- The smallest of some live keys is that of an order of the best price. -/
theorem exists_least_noBetter {side : Side} {keys : Set Key} (nonempty : keys.Nonempty)
    (live : ∀ key ∈ keys, ∃ order, ofLiveKey side key = .ok order) :
    ∃ least ∈ keys, (∀ other ∈ keys, least ≤ other) ∧ ∀ other ∈ keys,
      side.NoBetter (ofKey side other).price (ofKey side least).price := by
  obtain ⟨least, held, smallest⟩ := (measure BitVec.toNat).wf.has_min keys nonempty
  have below (other : Key) (member : other ∈ keys) : least ≤ other :=
    Nat.le_of_not_lt (smallest other member)
  obtain ⟨order, accepted⟩ := live least held
  have priced := (emptyField?_eq_none_iff.mp (ofLiveKey_eq_ok_iff.mp accepted).1).2.1
  exact ⟨least, held, below, fun other member => noBetter_of_key_le (below other member) priced⟩

/-- An order that keeps resting with less quantity does not fall behind its former place. -/
theorem key_withQuantity_le_key {order : Order} (fits : order.Fits) {quantity : UInt64}
    (less : quantity ≤ order.quantity) : (order.withQuantity quantity).key ≤ order.key := by
  have readBack := ofKey_key fits.price fits.quantity
  have smaller : quantity ≤ (ofKey order.side order.key).quantity := by rwa [readBack]
  have moved := key_withQuantity_le order.side order.key smaller
  rwa [readBack] at moved

/-- Among orders of a side, one comparison of keys decides by price, quantity and trader, where
traders compare as numbers and as bytes. So the smallest of any live keys is that of an order of the
best price, and an order with less quantity does not fall behind its former place. -/
theorem keys_by_priority :
    (∀ order other : Order, order.side = other.side → order.price ≠ 0 → other.price ≠ 0 →
      order.Fits → other.Fits → (order.key < other.key ↔ order.Precedes other)) ∧
    (∀ a b : Address, (a < b ↔ a.bytes < b.bytes) ∧ (a < b ↔ a.toWord < b.toWord)) ∧
    (∀ (side : Side) (keys : Set Key), keys.Nonempty →
      (∀ key ∈ keys, ∃ order, ofLiveKey side key = .ok order) →
      ∃ least ∈ keys, (∀ other ∈ keys, least ≤ other) ∧ ∀ other ∈ keys,
        ¬ side.Better (ofKey side other).price (ofKey side least).price) ∧
    ∀ (order : Order) (quantity : UInt64), order.Fits → quantity ≤ order.quantity →
      (order.withQuantity quantity).key ≤ order.key := by
  refine ⟨?_, fun a b => ⟨Address.lt_iff_bytes_lt, Address.lt_iff_toWord_lt⟩, ?_,
    fun order quantity fits less => key_withQuantity_le_key fits less⟩
  · intro order other same priced otherPriced fits otherFits
    exact key_lt_iff_precedes same priced otherPriced fits otherFits
  · intro side keys nonempty live
    simp only [← Side.noBetter_iff]
    exact exists_least_noBetter nonempty live

/-- The bid that offers most at the highest price. -/
def dearestBid : Order := ⟨.buy, 281474976710655, 281474976710655, ⟨-1⟩⟩

/-- A bid that offers nothing at the lowest price. -/
def cheapestBid : Order := ⟨.buy, 1, 0, ⟨0xa0⟩⟩

/-- The same ask by any trader. -/
def askBy (trader : Address) : Order := ⟨.sell, 800, 1000, trader⟩

/-- The price decides even if quantity and trader are as large as they can be. Of two like asks that
of the smaller trader comes first, although the last byte of its trader is the larger one. -/
theorem dearestBid_first :
    dearestBid.key < cheapestBid.key ∧ (askBy ⟨0xff⟩).key < (askBy ⟨0x100⟩).key ∧
      (⟨0xff⟩ : Address).bytes < (⟨0x100⟩ : Address).bytes := by
  obtain ⟨keys, addresses, _⟩ := keys_by_priority
  have numbers : (⟨0xff⟩ : Address) < ⟨0x100⟩ := by decide
  refine ⟨?_, ?_, (addresses _ _).1.mp numbers⟩
  · exact (keys dearestBid cheapestBid rfl (by decide) (by decide) ⟨by decide, by decide⟩
      ⟨by decide, by decide⟩).mpr (.inl (by decide : (1 : UInt64) < 281474976710655))
  · exact (keys (askBy ⟨0xff⟩) (askBy ⟨0x100⟩) rfl (by decide) (by decide) ⟨by decide, by decide⟩
      ⟨by decide, by decide⟩).mpr (.inr ⟨rfl, .inr ⟨rfl, numbers⟩⟩)

end Order

end DoubleAuction
