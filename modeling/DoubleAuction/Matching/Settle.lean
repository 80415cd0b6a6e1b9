import DoubleAuction.Matching.Fill

/-! # Settling a bid against an ask

For a bid of price `Pb` with escrow `Cb` in the first currency and an ask of price `Ps ≤ Pb` with
escrow `Cs` in the second, `⌊Cs / Pb⌋` is what the whole ask costs at the bid price and `Cb * Ps` is
what the whole bid buys at the ask price. If the bid cannot pay for the whole ask it is spent and
the ask rests; if the ask cannot deliver to the whole bid it is spent and the bid rests; otherwise
both close and the market keeps what is left over. Both partial cases cannot hold at once:
`Cb < ⌊Cs / Pb⌋` gives `Cb * Ps < (Cb + 1) * Pb ≤ Cs`.
-/

namespace DoubleAuction

/-- Whether a bid and an ask can trade. -/
def crosses (bid ask : Order) : Bool := ask.price ≤ bid.price

/-- An amount as a payout, which has 64 bits. -/
def payoutOf (amount : Nat) : Except Error UInt64 :=
  if fits : amount < UInt64.size then .ok (.ofNatLT amount fits)
  else .error (.internal (.payoutTooWide amount))

/-- What is left of an escrow after a payout. -/
def remainder (escrow paid : UInt64) : Except Error UInt64 :=
  if paid ≤ escrow then .ok (escrow - paid)
  else .error (.internal (.payoutExceedsEscrow paid escrow))

/-- Settles a crossing pair. -/
def settle (bid ask : Order) : Except Error Fill :=
  if !crosses bid ask then .error (.notCrossing bid.price ask.price)
  else if bid.price = 0 then .error .unpricedBid
  else do
    let closing : Fill :=
      { outcome := .bothFilled, buyer := bid.trader, seller := ask.trader,
        bidPrice := bid.price, askPrice := ask.price, toSeller := 0, toBuyer := 0,
        bidResidual := 0, askResidual := 0, retainedFirst := 0, retainedSecond := 0 }
    let required := ask.quantity / bid.price
    let deliverable := bid.quantity.toNat * ask.price.toNat
    if bid.quantity < required then
      let toBuyer ← payoutOf deliverable
      let askResidual ← remainder ask.quantity toBuyer
      return { closing with outcome := .bidFilled, toSeller := bid.quantity, toBuyer, askResidual }
    else if ask.quantity.toNat < deliverable then
      let bidResidual ← remainder bid.quantity required
      return { closing with
        outcome := .askFilled, toSeller := required, toBuyer := ask.quantity, bidResidual }
    else
      let toBuyer ← payoutOf deliverable
      let retainedFirst ← remainder bid.quantity required
      let retainedSecond ← remainder ask.quantity toBuyer
      return { closing with toSeller := required, toBuyer, retainedFirst, retainedSecond }

end DoubleAuction
