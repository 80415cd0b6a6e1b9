import DoubleAuction.Proofs.Matching.Outcomes

/-! # Prices of fills, and what the market keeps

In each of its three outcomes a fill pays the two sides at different prices, rounded down to whole
units. All the same, what the buyer gets for what the seller gets lies between the two limit prices,
up to one unit (`Settles.between`), and what the market keeps is at most what the spread is worth to
the whole bid, again up to less than one unit of the first currency (`Settles.retained_lt`). At
equal prices the bid loses nothing (`settle_within_limits`).
-/

namespace DoubleAuction

section Rounding

variable {bidPrice bidQuantity askPrice askQuantity kept : Nat}

/-- What the whole bid buys at the bid price is what it buys at the ask price and the spread. -/
theorem mul_spread_add (bidQuantity : Nat) (crossing : askPrice ≤ bidPrice) :
    bidQuantity * (bidPrice - askPrice) + bidQuantity * askPrice = bidQuantity * bidPrice := by
  rw [← Nat.mul_add, Nat.sub_add_cancel crossing]

/-- What is kept of a bid behind the price of the ask, when the ask can deliver to the whole bid. -/
theorem keptFirst_lt (crossing : askPrice ≤ bidPrice) (priced : 0 < bidPrice)
    (split : kept + askQuantity / bidPrice = bidQuantity)
    (deliverable : bidQuantity * askPrice ≤ askQuantity) :
    kept * bidPrice < bidQuantity * (bidPrice - askPrice) + bidPrice := by
  have spread := mul_spread_add bidQuantity crossing
  have rounded : askQuantity < askQuantity / bidPrice * bidPrice + bidPrice :=
    Nat.lt_div_mul_add priced
  have whole : bidQuantity * bidPrice = kept * bidPrice + askQuantity / bidPrice * bidPrice := by
    rw [← split, Nat.add_mul]
  omega

/-- What is kept of an ask behind its delivery to the bid, when the bid can pay for all of it. -/
theorem keptSecond_lt (crossing : askPrice ≤ bidPrice) (priced : 0 < bidPrice)
    (split : kept + bidQuantity * askPrice = askQuantity)
    (payable : askQuantity / bidPrice ≤ bidQuantity) :
    kept < bidQuantity * (bidPrice - askPrice) + bidPrice := by
  have spread := mul_spread_add bidQuantity crossing
  have rounded : askQuantity < askQuantity / bidPrice * bidPrice + bidPrice :=
    Nat.lt_div_mul_add priced
  have whole : askQuantity / bidPrice * bidPrice ≤ bidQuantity * bidPrice :=
    Nat.mul_le_mul_right _ payable
  omega

/-- What is kept of an ask that the bid cannot pay for is worth one more unit of the bid. -/
theorem price_le_kept (crossing : askPrice ≤ bidPrice) (priced : 0 < bidPrice)
    (split : kept + bidQuantity * askPrice = askQuantity)
    (short : bidQuantity < askQuantity / bidPrice) : bidPrice ≤ kept := by
  have whole : (bidQuantity + 1) * bidPrice ≤ askQuantity :=
    (Nat.le_div_iff_mul_le priced).mp short
  have less : bidQuantity * askPrice ≤ bidQuantity * bidPrice := Nat.mul_le_mul_left _ crossing
  rw [Nat.add_one_mul] at whole
  omega

end Rounding

section Settling

variable {bid ask : Order} {fill : Fill}

/-- What is delivered lies between what is paid at the ask price and one unit more at the bid
price. -/
theorem Settles.between (settles : Settles bid ask fill)
    (crossing : ask.price.toNat ≤ bid.price.toNat) (priced : 0 < bid.price.toNat) :
    fill.toSeller.toNat * ask.price.toNat ≤ fill.toBuyer.toNat ∧
      fill.toBuyer.toNat < (fill.toSeller.toNat + 1) * bid.price.toNat := by
  have exact : ask.quantity.toNat / bid.price.toNat * bid.price.toNat ≤ ask.quantity.toNat :=
    Nat.div_mul_le_self _ _
  have rounded : ask.quantity.toNat <
      ask.quantity.toNat / bid.price.toNat * bid.price.toNat + bid.price.toNat :=
    Nat.lt_div_mul_add priced
  rw [Nat.add_one_mul]
  cases settles with
  | bidFilled _ _ toSeller toBuyer =>
    have less : bid.quantity.toNat * ask.price.toNat ≤ bid.quantity.toNat * bid.price.toNat :=
      Nat.mul_le_mul_left _ crossing
    rw [toSeller, toBuyer]
    omega
  | askFilled _ _ toSeller toBuyer =>
    have less : ask.quantity.toNat / bid.price.toNat * ask.price.toNat ≤
        ask.quantity.toNat / bid.price.toNat * bid.price.toNat :=
      Nat.mul_le_mul_left _ crossing
    rw [toSeller, toBuyer]
    omega
  | bothFilled _ toSeller toBuyer kept =>
    obtain ⟨keptFirst, keptSecond⟩ := kept
    have paid : fill.toSeller.toNat * ask.price.toNat ≤ bid.quantity.toNat * ask.price.toNat := by
      apply Nat.mul_le_mul_right
      omega
    rw [toSeller] at paid ⊢
    rw [toBuyer] at keptSecond ⊢
    omega

/-- What the market keeps is less than what the spread is worth to the whole bid and one unit. -/
theorem Settles.retained_lt (settles : Settles bid ask fill)
    (crossing : ask.price.toNat ≤ bid.price.toNat) (priced : 0 < bid.price.toNat) :
    fill.retainedFirst.toNat * bid.price.toNat <
        bid.quantity.toNat * (bid.price.toNat - ask.price.toNat) + bid.price.toNat ∧
      fill.retainedSecond.toNat <
        bid.quantity.toNat * (bid.price.toNat - ask.price.toNat) + bid.price.toNat := by
  cases settles with
  | bidFilled _ _ _ _ _ _ kept | askFilled _ _ _ _ _ _ kept =>
    rw [kept.1, kept.2, UInt64.toNat_zero, Nat.zero_mul]
    omega
  | bothFilled _ toSeller toBuyer kept =>
    obtain ⟨keptFirst, keptSecond⟩ := kept
    rw [toSeller] at keptFirst
    rw [toBuyer] at keptSecond
    exact ⟨keptFirst_lt crossing priced keptFirst (by omega),
      keptSecond_lt crossing priced keptSecond (by omega)⟩

theorem Settles.price_le_askResidual (settles : Settles bid ask fill)
    (crossing : ask.price.toNat ≤ bid.price.toNat) (priced : 0 < bid.price.toNat)
    (filled : fill.outcome = .bidFilled) : bid.price ≤ fill.askResidual := by
  cases settles with
  | bidFilled _ short _ toBuyer rests =>
    rw [toBuyer] at rests
    exact UInt64.le_iff_toNat_le.mpr (price_le_kept crossing priced rests short)
  | askFilled outcome | bothFilled outcome =>
    rw [outcome] at filled
    cases filled

end Settling

/-- A fill keeps to the limits of its orders, and what it leaves to the market is bounded by their
spread. The prices cross and the bid has one, so no difference here is cut off at zero. -/
structure Fill.WithinLimits (fill : Fill) (bid ask : Order) : Prop where
  crossing : ask.price.toNat ≤ bid.price.toNat
  priced : 0 < bid.price.toNat
  fromAskPrice : fill.toSeller.toNat * ask.price.toNat ≤ fill.toBuyer.toNat
  toBidPrice : fill.toBuyer.toNat < (fill.toSeller.toNat + 1) * bid.price.toNat
  retainedFirst : fill.retainedFirst.toNat * bid.price.toNat ≤
    bid.quantity.toNat * (bid.price.toNat - ask.price.toNat) + bid.price.toNat - 1
  retainedSecond : fill.retainedSecond.toNat ≤
    bid.quantity.toNat * (bid.price.toNat - ask.price.toNat) + bid.price.toNat - 1
  askResidual : fill.outcome = .bidFilled → bid.price ≤ fill.askResidual

/-- Every pair that settles trades between its limit prices, up to rounding, and loses no more than
the spread and rounding to the market. At equal prices the bid loses nothing and the ask less than
one unit is worth. -/
theorem settle_within_limits {bid ask : Order} {fill : Fill}
    (settled : settle bid ask = .ok fill) :
    fill.WithinLimits bid ask ∧
      (ask.price = bid.price → fill.retainedFirst = 0 ∧ fill.retainedSecond < bid.price) := by
  have ended := settle_end bid ask
  rw [settled] at ended
  cases ended with
  | settled crossing priced _ settles =>
    have priceLe := UInt64.le_iff_toNat_le.mp crossing
    have pricePos : 0 < bid.price.toNat :=
      UInt64.lt_iff_toNat_lt.mp (UInt64.pos_iff_ne_zero.mpr priced)
    obtain ⟨fromAskPrice, toBidPrice⟩ := settles.between priceLe pricePos
    obtain ⟨first, second⟩ := settles.retained_lt priceLe pricePos
    refine ⟨⟨priceLe, pricePos, fromAskPrice, toBidPrice, Nat.le_sub_one_of_lt first,
      Nat.le_sub_one_of_lt second, settles.price_le_askResidual priceLe pricePos⟩, ?_⟩
    intro equal
    rw [equal, Nat.sub_self, Nat.mul_zero, Nat.zero_add] at first second
    refine ⟨?_, UInt64.lt_iff_toNat_lt.mpr second⟩
    apply UInt64.toNat_inj.mp
    have none : fill.retainedFirst.toNat < 1 := by
      apply Nat.lt_of_mul_lt_mul_right
      rwa [Nat.one_mul]
    exact Nat.lt_one_iff.mp none

/-- At equal prices the ask loses as much as it can: all but one unit of what would buy one more. -/
theorem evenPair_loses_most :
    ∃ fill, settle ⟨.buy, 1200, 1000, ⟨0xa0⟩⟩ ⟨.sell, 1200, 1201199, ⟨0xa2⟩⟩ = .ok fill ∧
      fill.retainedFirst = 0 ∧ fill.retainedSecond = 1199 ∧ fill.retainedSecond < 1200 ∧
      fill.WithinLimits ⟨.buy, 1200, 1000, ⟨0xa0⟩⟩ ⟨.sell, 1200, 1201199, ⟨0xa2⟩⟩ := by
  have settled : settle ⟨.buy, 1200, 1000, ⟨0xa0⟩⟩ ⟨.sell, 1200, 1201199, ⟨0xa2⟩⟩ =
      .ok ⟨.bothFilled, ⟨0xa0⟩, ⟨0xa2⟩, 1200, 1200, 1000, 1200000, 0, 0, 0, 1199⟩ := rfl
  obtain ⟨limits, even⟩ := settle_within_limits settled
  obtain ⟨nothing, less⟩ := even rfl
  exact ⟨_, settled, nothing, rfl, less, limits⟩

end DoubleAuction
