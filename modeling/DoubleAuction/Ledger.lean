import DoubleAuction.Address

/-! # Token ledgers

A ledger keeps balances and records transfers. A market never holds a ledger: it is handed one for
every call that reads or moves balances, through the four operations of `Ledger`.
-/

namespace DoubleAuction

/-- An amount of tokens. -/
abbrev Amount := BitVec 128

/-- How many amounts there are. -/
abbrev Amount.size : Nat := 0x100000000000000000000000000000000

/-- One transfer as its ledger recorded it. Sequence numbers grow with every attempt. -/
structure Transfer where
  seq : UInt64
  sender : Address
  recipient : Address
  amount : Amount
  success : Bool
  deriving DecidableEq, Repr

/-- What a market needs of a ledger. -/
class Ledger (L : Type u) where
  /-- The name of the ledger. -/
  address : L → Address
  /-- Moves an amount from a sender to a recipient; `false` when the transfer was not made. -/
  transfer : L → (sender recipient : Address) → Amount → Bool × L
  balance : L → Address → Amount
  /-- The most recent transfer that was made. -/
  lastTransfer : L → Option Transfer

end DoubleAuction
