import DoubleAuction.Proofs.Order.Codec

/-! # Keys and priority

Of two keys of a side the smaller one has the better price (`noBetter_of_key_le`), and an order with
less left of it does not move behind its former place (`key_withQuantity_le`). A key that is no
larger than any other therefore describes an order of the best price. Price zero is the exception:
it packs to the smallest field on both sides, and no live order has it.
-/

namespace DoubleAuction

/-- A price is no better than another on a side: no higher for a bid, no lower for an ask. -/
def Side.NoBetter : Side → UInt64 → UInt64 → Prop
  | .buy, price, other => price ≤ other
  | .sell, price, other => other ≤ price

instance Side.decidableNoBetter (side : Side) (price other : UInt64) :
    Decidable (side.NoBetter price other) :=
  match side with
  | .buy => inferInstanceAs (Decidable (price ≤ other))
  | .sell => inferInstanceAs (Decidable (other ≤ price))

namespace Order

/-- An order with less left of it has a smaller key, or the same. -/
theorem key_withQuantity_le (side : Side) (key : Key) {quantity : UInt64}
    (less : quantity ≤ (ofKey side key).quantity) :
    ((ofKey side key).withQuantity quantity).key ≤ key := by
  have whole : (ofKey side key).quantity.toNat < 2 ^ 48 := ofKey_quantity_lt side key
  have smaller : quantity.toNat ≤ (ofKey side key).quantity.toNat := less
  have kept : key.toNat = (ofKey side key).key.toNat := by rw [key_ofKey]
  rw [BitVec.le_def, kept]
  simp only [key_eq_pack, toNat_pack, withQuantity, BitVec.toNat_setWidth, UInt64.toNat_toBitVec]
  omega

/-- The price of an order, as its key holds it. -/
theorem price_ofKey (side : Side) (key : Key) :
    (ofKey side key).price.toNat =
      match side with
      | .buy => (fieldLimit - key.toNat >>> 208) % fieldLimit
      | .sell => key.toNat >>> 208 := by
  have bound := key.isLt
  cases side with
  | buy =>
    simp only [ofKey, packPrice, UInt64.toNat_ofBitVec, BitVec.toNat_setWidth, BitVec.toNat_neg,
      BitVec.extractLsb'_toNat, fieldLimit]
    omega
  | sell =>
    simp only [ofKey, packPrice, UInt64.toNat_ofBitVec, BitVec.toNat_setWidth,
      BitVec.extractLsb'_toNat]
    omega

/-- Of two keys the smaller one has the better price, unless its price is zero. -/
theorem noBetter_of_key_le {side : Side} {key other : Key} (less : key ≤ other)
    (priced : (ofKey side key).price ≠ 0) :
    side.NoBetter (ofKey side other).price (ofKey side key).price := by
  have positive : (ofKey side key).price.toNat ≠ 0 := fun zero => priced (UInt64.toNat_inj.mp zero)
  have first := price_ofKey side key
  have second := price_ofKey side other
  have bound := other.isLt
  rw [BitVec.le_def] at less
  cases side with
  | buy =>
    change (ofKey .buy other).price.toNat ≤ (ofKey .buy key).price.toNat
    dsimp only [fieldLimit] at first second
    omega
  | sell =>
    change (ofKey .sell key).price.toNat ≤ (ofKey .sell other).price.toNat
    dsimp only at first second
    omega

end Order

end DoubleAuction
