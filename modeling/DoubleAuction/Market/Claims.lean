import DoubleAuction.Address.Map
import DoubleAuction.Market.Rejection
import DoubleAuction.Order
import DoubleAuction.Ledger

/-! # Deposit claims

A trader first transfers tokens to the market and then places an order, which is funded by the
latest transfer on the ledger. Each transfer funds at most one order: the sequence numbers of a
ledger grow, so it is enough to remember the highest one used per ledger.
-/

namespace DoubleAuction

/-- A deposit bound to an order. -/
structure Claim where
  seq : UInt64
  quantity : UInt64
  deriving DecidableEq, Repr

/-- The highest sequence number used, for every ledger. -/
structure Claims where
  claimed : AddressMap UInt64
  deriving DecidableEq, Repr

namespace Claims

/-- Nothing claimed yet. -/
def empty : Claims := ⟨.empty⟩

instance : Inhabited Claims := ⟨empty⟩

/-- The highest sequence number used on a ledger. -/
def lastClaimed (claims : Claims) (ledger : Address) : Option UInt64 := claims.claimed.find? ledger

/-- Whether a transfer, or a later one, has been used. -/
def isUsed (claims : Claims) (ledger : Address) (seq : UInt64) : Bool :=
  (claims.lastClaimed ledger).any (seq ≤ ·)

variable {L : Type u} [Ledger L]

/-- The claim that the latest transfer of a ledger offers a depositor, without making it. -/
def inspect (claims : Claims) (ledger : L) (depositor recipient : Address) :
    Except Rejection Claim :=
  match Ledger.lastTransfer ledger with
  | none => .error .noDeposit
  | some transfer =>
    if !transfer.success then .error .depositFailed
    else if transfer.sender ≠ depositor then .error .depositFromOther
    else if transfer.recipient ≠ recipient then .error .depositToOther
    else if claims.isUsed (Ledger.address ledger) transfer.seq then .error .alreadyClaimed
    else if transfer.amount = 0 ∨ fieldLimit ≤ transfer.amount.toNat then .error .quantityOutOfRange
    else .ok ⟨transfer.seq, .ofNat transfer.amount.toNat⟩

/-- Marks a sequence number of a ledger as used. -/
def use (claims : Claims) (ledger : Address) (seq : UInt64) : Claims :=
  ⟨claims.claimed.insert ledger seq⟩

/-- Binds the latest transfer of a ledger to an order. -/
def claim (claims : Claims) (ledger : L) (depositor recipient : Address) :
    Except Rejection (Claim × Claims) := do
  let claim ← claims.inspect ledger depositor recipient
  return (claim, claims.use (Ledger.address ledger) claim.seq)

/-- Marks the latest transfer of a ledger, and with it every earlier one, as used. -/
def retireLatest (claims : Claims) (ledger : L) : Claims :=
  match Ledger.lastTransfer ledger with
  | none => claims
  | some transfer =>
    let address := Ledger.address ledger
    claims.use address (max ((claims.lastClaimed address).getD 0) transfer.seq)

end Claims

end DoubleAuction
