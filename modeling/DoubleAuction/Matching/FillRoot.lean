import DoubleAuction.Market.Epoch
import DoubleAuction.Matching.Fill
import DoubleAuction.Hash.Sha256

/-! # Fill roots

A fill root commits to everything a clearing call settled: the epoch, the number of fills, and every
field of every fill in order, each in a fixed number of bytes. Comparing two roots compares whole
calls.
-/

namespace DoubleAuction.FillRoot

open Bytes

/-- The marker that keeps fill roots apart from other hashes. -/
def domain : List UInt8 := "cyberdyne:fill_root:v1:".toList.map fun c => UInt8.ofNat c.toNat

def outcomeByte : Outcome → UInt8
  | .bidFilled => 0
  | .askFilled => 1
  | .bothFilled => 2

/-- The amounts of a fill in the order of the commitment. -/
def amounts (fill : Fill) : List UInt64 :=
  [fill.bidPrice, fill.askPrice, fill.toSeller, fill.toBuyer, fill.bidResidual, fill.askResidual,
    fill.retainedFirst, fill.retainedSecond]

/-- The bytes of one fill: outcome, buyer, seller, amounts. -/
def fillBytes (fill : Fill) : List UInt8 :=
  outcomeByte fill.outcome :: bigEndian 20 fill.buyer.word.toNat ++
    bigEndian 20 fill.seller.word.toNat ++
    (amounts fill).flatMap fun amount => littleEndian 8 amount.toNat

/-- The byte string behind a root. -/
def preimage (epoch : Epoch) (fills : List Fill) : List UInt8 :=
  domain ++ littleEndian 8 epoch.index.toNat ++ littleEndian 8 fills.length ++
    fills.flatMap fillBytes

/-- The root of the fills of one call. -/
def compute (epoch : Epoch) (fills : List Fill) : Hash.Digest := Hash.sha256 (preimage epoch fills)

/-- Whether a root belongs to an epoch and its fills. -/
def verify (epoch : Epoch) (fills : List Fill) (expected : Hash.Digest) : Bool :=
  compute epoch fills = expected

end DoubleAuction.FillRoot
