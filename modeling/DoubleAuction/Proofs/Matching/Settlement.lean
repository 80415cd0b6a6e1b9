import DoubleAuction.Matching.Settle

/-! # What a settlement amounts to

A crossing pair with a priced bid always settles, in one of three ways (`Settles`, `settle_ok`):
amounts never run out of their width and never exceed an escrow. In each of them the escrow of an
order splits into what is paid, what stays resting and what the market keeps (`Settles.conserves`).
-/

namespace DoubleAuction

theorem payoutOf_of_lt {amount : Nat} (fits : amount < UInt64.size) :
    payoutOf amount = .ok (.ofNatLT amount fits) := dif_pos fits

theorem remainder_of_le {escrow paid : UInt64} (covered : paid ≤ escrow) :
    remainder escrow paid = .ok (escrow - paid) := if_pos covered

/-- How a fill divides the escrow of a crossing pair. -/
inductive Settles (bid ask : Order) (fill : Fill) : Prop
  /-- The bid cannot pay for the whole ask: it is spent, and the ask rests. -/
  | bidFilled (outcome : fill.outcome = .bidFilled)
      (short : bid.quantity.toNat < ask.quantity.toNat / bid.price.toNat)
      (toSeller : fill.toSeller = bid.quantity)
      (toBuyer : fill.toBuyer.toNat = bid.quantity.toNat * ask.price.toNat)
      (rests : fill.askResidual.toNat + fill.toBuyer.toNat = ask.quantity.toNat)
      (closed : fill.bidResidual = 0) (kept : fill.retainedFirst = 0 ∧ fill.retainedSecond = 0)
  /-- The ask cannot deliver to the whole bid: it is spent, and the bid rests. -/
  | askFilled (outcome : fill.outcome = .askFilled)
      (short : ask.quantity.toNat < bid.quantity.toNat * ask.price.toNat)
      (toSeller : fill.toSeller.toNat = ask.quantity.toNat / bid.price.toNat)
      (toBuyer : fill.toBuyer = ask.quantity)
      (rests : fill.bidResidual.toNat + fill.toSeller.toNat = bid.quantity.toNat)
      (closed : fill.askResidual = 0) (kept : fill.retainedFirst = 0 ∧ fill.retainedSecond = 0)
  /-- Both close, and the market keeps what is left over. -/
  | bothFilled (outcome : fill.outcome = .bothFilled)
      (toSeller : fill.toSeller.toNat = ask.quantity.toNat / bid.price.toNat)
      (toBuyer : fill.toBuyer.toNat = bid.quantity.toNat * ask.price.toNat)
      (kept : fill.retainedFirst.toNat + fill.toSeller.toNat = bid.quantity.toNat ∧
        fill.retainedSecond.toNat + fill.toBuyer.toNat = ask.quantity.toNat)
      (closed : fill.bidResidual = 0 ∧ fill.askResidual = 0)

/-- A bid that cannot pay for the whole ask buys less than the ask offers. -/
theorem deliverable_lt_of_short {bidPrice bidQuantity askPrice askQuantity : Nat}
    (crossing : askPrice ≤ bidPrice) (priced : 0 < bidPrice)
    (short : bidQuantity < askQuantity / bidPrice) :
    bidQuantity * askPrice < askQuantity := by
  have whole : (bidQuantity + 1) * bidPrice ≤ askQuantity :=
    (Nat.le_div_iff_mul_le priced).mp short
  calc
    bidQuantity * askPrice ≤ bidQuantity * bidPrice := Nat.mul_le_mul_left _ crossing
    _ < (bidQuantity + 1) * bidPrice := Nat.mul_lt_mul_of_pos_right (Nat.lt_succ_self _) priced
    _ ≤ askQuantity := whole

/-- A fill names the two orders it settles. -/
structure Fill.Names (fill : Fill) (bid ask : Order) : Prop where
  buyer : fill.buyer = bid.trader
  seller : fill.seller = ask.trader
  bidPrice : fill.bidPrice = bid.price
  askPrice : fill.askPrice = ask.price

/-- A crossing pair with a priced bid settles. -/
theorem settle_ok {bid ask : Order} (crossing : crosses bid ask = true) (priced : bid.price ≠ 0) :
    ∃ fill, settle bid ask = .ok fill ∧ fill.Names bid ask ∧ Settles bid ask fill := by
  have priceLe : ask.price.toNat ≤ bid.price.toNat := by
    simpa [crosses, UInt64.le_iff_toNat_le] using crossing
  have pricePos : 0 < bid.price.toNat :=
    Nat.pos_of_ne_zero fun zero => priced (UInt64.toNat_inj.mp zero)
  have bidSmall := bid.quantity.toNat_lt
  have askSmall := ask.quantity.toNat_lt
  have quotient : (ask.quantity / bid.price).toNat = ask.quantity.toNat / bid.price.toNat :=
    UInt64.toNat_div ..
  simp only [settle, crossing, Bool.not_true, Bool.false_eq_true, if_neg priced, ↓reduceIte]
  split
  case isTrue shortBid =>
    have short : bid.quantity.toNat < ask.quantity.toNat / bid.price.toNat := by
      rwa [UInt64.lt_iff_toNat_lt, quotient] at shortBid
    have less := deliverable_lt_of_short priceLe pricePos short
    have fits : bid.quantity.toNat * ask.price.toNat < UInt64.size :=
      Nat.lt_trans less askSmall
    have covered : UInt64.ofNatLT _ fits ≤ ask.quantity := by
      rw [UInt64.le_iff_toNat_le, UInt64.toNat_ofNatLT]
      omega
    simp only [payoutOf_of_lt fits, remainder_of_le covered, bind, Except.bind, pure, Except.pure]
    refine ⟨_, rfl, ⟨rfl, rfl, rfl, rfl⟩, ?_⟩
    refine .bidFilled rfl short rfl UInt64.toNat_ofNatLT ?_ rfl ⟨rfl, rfl⟩
    simp only [UInt64.toNat_sub_of_le _ _ covered, UInt64.toNat_ofNatLT]
    omega
  case isFalse wholeAsk =>
    have required : ask.quantity.toNat / bid.price.toNat ≤ bid.quantity.toNat := by
      rw [UInt64.lt_iff_toNat_lt, quotient] at wholeAsk
      omega
    have paid : ask.quantity / bid.price ≤ bid.quantity := by
      rwa [UInt64.le_iff_toNat_le, quotient]
    split
    case isTrue shortAsk =>
      simp only [remainder_of_le paid, bind, Except.bind, pure, Except.pure]
      refine ⟨_, rfl, ⟨rfl, rfl, rfl, rfl⟩, ?_⟩
      refine .askFilled rfl shortAsk quotient rfl ?_ rfl ⟨rfl, rfl⟩
      simp only [UInt64.toNat_sub_of_le _ _ paid, quotient]
      omega
    case isFalse wholeBid =>
      have fits : bid.quantity.toNat * ask.price.toNat < UInt64.size :=
        Nat.lt_of_le_of_lt (Nat.le_of_not_lt wholeBid) askSmall
      have covered : UInt64.ofNatLT _ fits ≤ ask.quantity := by
        rw [UInt64.le_iff_toNat_le, UInt64.toNat_ofNatLT]
        omega
      simp only [payoutOf_of_lt fits, remainder_of_le paid, remainder_of_le covered, bind,
        Except.bind, pure, Except.pure]
      refine ⟨_, rfl, ⟨rfl, rfl, rfl, rfl⟩, ?_⟩
      refine .bothFilled rfl quotient UInt64.toNat_ofNatLT ⟨?_, ?_⟩ ⟨rfl, rfl⟩
      · simp only [UInt64.toNat_sub_of_le _ _ paid, quotient]
        omega
      · simp only [UInt64.toNat_sub_of_le _ _ covered, UInt64.toNat_ofNatLT]
        omega

/-- A fill divides the escrow of each order without loss. -/
theorem Settles.conserves {bid ask : Order} {fill : Fill} (settles : Settles bid ask fill)
    (side : Side) :
    (fill.paid side).toNat + (fill.residual side).toNat + (fill.retained side).toNat =
      ((Sided.mk bid ask).get side).quantity.toNat := by
  cases settles with
  | bidFilled _ _ toSeller _ rests closed kept =>
    cases side <;>
      simp only [Fill.paid, Fill.residual, Fill.retained, Sided.get, toSeller, closed, kept,
        UInt64.toNat_zero]
    · omega
    · omega
  | askFilled _ _ _ toBuyer rests closed kept =>
    cases side <;>
      simp only [Fill.paid, Fill.residual, Fill.retained, Sided.get, toBuyer, closed, kept,
        UInt64.toNat_zero]
    · omega
    · omega
  | bothFilled _ _ _ kept closed =>
    obtain ⟨keptFirst, keptSecond⟩ := kept
    cases side <;>
      simp only [Fill.paid, Fill.residual, Fill.retained, Sided.get, closed, UInt64.toNat_zero]
    · omega
    · omega

end DoubleAuction
