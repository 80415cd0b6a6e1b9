import DoubleAuction.Proofs.Matching.Settlement

/-! # Which pairs settle, and what their outcomes mean

Settling ends in one of three ways (`SettleEnd`, `settle_end`): the pair does not cross, neither
order has a price, or the pair settles. The two partial cases exclude each other, and each leaves a
positive rest of the order that it does not close (`deliverable_lt_of_short`,
`required_lt_of_short`), so the outcome of a fill can be read off its residuals
(`Settles.classified`, `settle_total`).
-/

namespace DoubleAuction

/-- An ask that cannot deliver to the whole bid costs less than the bid offers. -/
theorem required_lt_of_short {bidPrice bidQuantity askPrice askQuantity : Nat}
    (crossing : askPrice ≤ bidPrice) (short : askQuantity < bidQuantity * askPrice) :
    askQuantity / bidPrice < bidQuantity := by
  apply Nat.div_lt_of_lt_mul
  calc
    askQuantity < bidQuantity * askPrice := short
    _ ≤ bidQuantity * bidPrice := Nat.mul_le_mul_left _ crossing
    _ = bidPrice * bidQuantity := Nat.mul_comm _ _

/-- How settling a pair ends. -/
inductive SettleEnd (bid ask : Order) : Except Error Fill → Prop
  | apart (apart : bid.price < ask.price) :
      SettleEnd bid ask (.error (.notCrossing bid.price ask.price))
  | unpriced (bidPrice : bid.price = 0) (askPrice : ask.price = 0) :
      SettleEnd bid ask (.error .unpricedBid)
  | settled {fill : Fill} (crossing : ask.price ≤ bid.price) (priced : bid.price ≠ 0)
      (names : fill.Names bid ask) (settles : Settles bid ask fill) :
      SettleEnd bid ask (.ok fill)

theorem settle_end (bid ask : Order) : SettleEnd bid ask (settle bid ask) := by
  by_cases crossing : ask.price ≤ bid.price
  · have crossed : crosses bid ask = true := decide_eq_true crossing
    by_cases unpriced : bid.price = 0
    · have askPrice : ask.price = 0 := by
        apply UInt64.toNat_inj.mp
        rw [unpriced, UInt64.le_iff_toNat_le] at crossing
        exact Nat.eq_zero_of_le_zero crossing
      simp only [settle, crossed, unpriced, Bool.not_true, Bool.false_eq_true, ↓reduceIte]
      exact .unpriced unpriced askPrice
    · obtain ⟨fill, settled, names, settles⟩ := settle_ok crossed unpriced
      rw [settled]
      exact .settled crossing unpriced names settles
  · have uncrossed : crosses bid ask = false := decide_eq_false crossing
    simp only [settle, uncrossed, Bool.not_false, ↓reduceIte]
    exact .apart (UInt64.not_le.mp crossing)

/-- The outcome of a fill tells which order keeps resting; the market keeps something only when
neither does. -/
structure Fill.Classified (fill : Fill) : Prop where
  bidFilled : fill.outcome = .bidFilled ↔ 0 < fill.askResidual
  askFilled : fill.outcome = .askFilled ↔ 0 < fill.bidResidual
  bothFilled : fill.outcome = .bothFilled ↔ fill.bidResidual = 0 ∧ fill.askResidual = 0
  closes : fill.bidResidual = 0 ∨ fill.askResidual = 0
  retains : fill.outcome ≠ .bothFilled → fill.retainedFirst = 0 ∧ fill.retainedSecond = 0

theorem Settles.classified {bid ask : Order} {fill : Fill} (settles : Settles bid ask fill)
    (crossing : ask.price ≤ bid.price) (priced : bid.price ≠ 0) : fill.Classified := by
  rw [UInt64.le_iff_toNat_le] at crossing
  have pricePos : 0 < bid.price.toNat :=
    Nat.pos_of_ne_zero fun zero => priced (UInt64.toNat_inj.mp zero)
  cases settles with
  | bidFilled outcome short _ toBuyer rests closed kept =>
    have less := deliverable_lt_of_short crossing pricePos short
    have positive : 0 < fill.askResidual := by
      rw [UInt64.lt_iff_toNat_lt, UInt64.toNat_zero]
      omega
    have nonzero : fill.askResidual ≠ 0 := (UInt64.ne_of_lt positive).symm
    refine ⟨?_, ?_, ?_, .inl closed, fun _ => kept⟩
    · simp only [outcome, positive]
    · simp only [outcome, closed, reduceCtorEq, UInt64.lt_irrefl]
    · simp only [outcome, nonzero, reduceCtorEq, and_false]
  | askFilled outcome short toSeller _ rests closed kept =>
    have less := required_lt_of_short crossing short
    have positive : 0 < fill.bidResidual := by
      rw [UInt64.lt_iff_toNat_lt, UInt64.toNat_zero]
      omega
    have nonzero : fill.bidResidual ≠ 0 := (UInt64.ne_of_lt positive).symm
    refine ⟨?_, ?_, ?_, .inr closed, fun _ => kept⟩
    · simp only [outcome, closed, reduceCtorEq, UInt64.lt_irrefl]
    · simp only [outcome, positive]
    · simp only [outcome, nonzero, reduceCtorEq, false_and]
  | bothFilled outcome _ _ _ closed =>
    obtain ⟨bidClosed, askClosed⟩ := closed
    refine ⟨?_, ?_, ?_, .inl bidClosed, fun other => absurd outcome other⟩
    · simp only [outcome, askClosed, reduceCtorEq, UInt64.lt_irrefl]
    · simp only [outcome, bidClosed, reduceCtorEq, UInt64.lt_irrefl]
    · simp only [outcome, bidClosed, askClosed, and_self]

/-- Settling is total. A pair settles exactly when it crosses and the bid has a price, otherwise the
error says which is missing, and no amount ever runs out of its width or exceeds an escrow. A fill
divides the escrow of both orders without loss, its outcome tells which order keeps resting, and the
conditions of the two partial cases exclude each other. -/
theorem settle_total (bid ask : Order) :
    ((∃ fill, settle bid ask = .ok fill) ↔ ask.price ≤ bid.price ∧ 0 < bid.price) ∧
      (settle bid ask = .error (.notCrossing bid.price ask.price) ↔ bid.price < ask.price) ∧
      (settle bid ask = .error .unpricedBid ↔ bid.price = 0 ∧ ask.price = 0) ∧
      (∀ fault, settle bid ask ≠ .error (.internal fault)) ∧
      ∀ fill, settle bid ask = .ok fill →
        fill.toSeller.toNat + fill.bidResidual.toNat + fill.retainedFirst.toNat =
            bid.quantity.toNat ∧
          fill.toBuyer.toNat + fill.askResidual.toNat + fill.retainedSecond.toNat =
            ask.quantity.toNat ∧
          fill.Classified ∧
          ¬ (bid.quantity.toNat < ask.quantity.toNat / bid.price.toNat ∧
            ask.quantity.toNat < bid.quantity.toNat * ask.price.toNat) := by
  have ended := settle_end bid ask
  generalize settle bid ask = result at ended
  cases ended with
  | apart apart =>
    have uncrossed : ¬ ask.price ≤ bid.price := UInt64.not_le.mpr apart
    have priced : ask.price ≠ 0 := by
      intro zero
      rw [zero] at apart
      exact UInt64.not_lt_zero apart
    simp [uncrossed, apart, priced]
  | unpriced bidPrice askPrice => simp [bidPrice, askPrice]
  | settled crossing priced _ settles =>
    have positive : 0 < bid.price := UInt64.pos_iff_ne_zero.mpr priced
    refine ⟨by simp [crossing, positive], by simp [crossing], by simp [priced], by simp, ?_⟩
    rintro other ⟨⟩
    refine ⟨settles.conserves .buy, settles.conserves .sell, settles.classified crossing priced, ?_⟩
    rintro ⟨shortBid, shortAsk⟩
    have less := deliverable_lt_of_short (UInt64.le_iff_toNat_le.mp crossing)
      (UInt64.lt_iff_toNat_lt.mp positive) shortBid
    omega

/-- A bid of the largest quantity there is. -/
def largestBid : Order := ⟨.buy, 2, 18446744073709551615, ⟨0xa0⟩⟩

/-- An ask of the largest quantity there is, at the same price. -/
def largestAsk : Order := ⟨.sell, 2, 18446744073709551615, ⟨0xa2⟩⟩

/-- The bid buys more than 64 bits can hold, so the ask is filled and the bid rests. -/
theorem largestBid_rests :
    ∃ fill, settle largestBid largestAsk = .ok fill ∧ fill.outcome = .askFilled ∧
      fill.toSeller.toNat + fill.bidResidual.toNat + fill.retainedFirst.toNat =
        largestBid.quantity.toNat ∧ fill.Classified := by
  have settled : settle largestBid largestAsk =
      .ok ⟨.askFilled, ⟨0xa0⟩, ⟨0xa2⟩, 2, 2, 9223372036854775807, 18446744073709551615,
        9223372036854775808, 0, 0, 0⟩ := by
    rfl
  obtain ⟨first, _, classified, _⟩ := (settle_total largestBid largestAsk).2.2.2.2 _ settled
  exact ⟨_, settled, rfl, first, classified⟩

end DoubleAuction
