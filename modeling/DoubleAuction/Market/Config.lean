import DoubleAuction.Order

/-! # Market configuration

A configuration fixes the length of an epoch, the price that the market reports, and the budget of a
clearing call that brings none. `Config.check` says which configurations can run a market.
-/

namespace DoubleAuction

/-- The settings of a market. The reference price is reported and never used for settlement. -/
structure Config where
  epochLength : UInt64 := 100
  referencePrice : UInt64 := 1000
  maxMatches : UInt32 := 256
  deriving DecidableEq, Repr

namespace Config

/-- Refuses configurations that cannot run a market. -/
def check (config : Config) : Except Error Unit :=
  if config.epochLength = 0 then .error (.config .noEpochLength)
  else if config.maxMatches = 0 then .error (.config .noMatches)
  else if fieldLimit ≤ config.referencePrice.toNat then
    .error (.config (.referencePriceOutOfRange config.referencePrice))
  else .ok ()

end Config

end DoubleAuction
