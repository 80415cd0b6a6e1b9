import DoubleAuction.Address.Map
import DoubleAuction.Ledger
import DoubleAuction.Sum

/-! # A token with an issuer

The issuer of a token is the only one who may create units of it. Anyone may send what they hold.
Every attempt to send is recorded under the next sequence number, whether it succeeds or not; a
failed attempt moves nothing.
-/

namespace DoubleAuction

/-- A token and its books. -/
structure Token where
  address : Address
  issuer : Address
  balances : AddressMap Amount
  lastAttempt : Option Transfer
  lastSuccess : Option Transfer
  nextSeq : UInt64
  deriving DecidableEq, Repr

namespace Token

/-- A token that nobody holds yet. -/
def create (address issuer : Address) : Token := ⟨address, issuer, .empty, none, none, 1⟩

/-- What an address holds. -/
def balance (token : Token) (owner : Address) : Amount := (token.balances.find? owner).getD 0

/-- Whether a balance can take an amount on top. -/
def canCredit (token : Token) (owner : Address) (amount : Amount) : Bool :=
  (token.balance owner).toNat + amount.toNat < Amount.size

/-- Sets the balance of an address. -/
def setBalance (token : Token) (owner : Address) (amount : Amount) : Token :=
  { token with balances := token.balances.insert owner amount }

/-- Creates units for a holder. Refused for anyone but the issuer, and when the balance would not
fit. -/
def issue (token : Token) (caller recipient : Address) (amount : Amount) : Bool × Token :=
  if caller = token.issuer ∧ token.canCredit recipient amount then
    (true, token.setBalance recipient (token.balance recipient + amount))
  else (false, token)

/-- Whether a sender can send an amount: it is positive and covered, and the recipient's balance can
take it. -/
def canSend (token : Token) (sender recipient : Address) (amount : Amount) : Bool :=
  0 < amount && amount ≤ token.balance sender &&
    (sender = recipient || token.canCredit recipient amount)

/-- Moves an amount between two balances. -/
def move (token : Token) (sender recipient : Address) (amount : Amount) : Token :=
  if sender = recipient then token
  else
    let debited := token.setBalance sender (token.balance sender - amount)
    debited.setBalance recipient (debited.balance recipient + amount)

/-- Writes an attempt to send into the books. -/
def record (token : Token) (sender recipient : Address) (amount : Amount) (success : Bool) :
    Token :=
  let attempt : Transfer := ⟨token.nextSeq, sender, recipient, amount, success⟩
  { token with
    lastAttempt := some attempt
    lastSuccess := if success then some attempt else token.lastSuccess
    nextSeq := token.nextSeq + 1 }

/-- Sends an amount, if the sender can. -/
def send (token : Token) (sender recipient : Address) (amount : Amount) : Bool × Token :=
  if token.canSend sender recipient amount then
    (true, (token.move sender recipient amount).record sender recipient amount true)
  else (false, token.record sender recipient amount false)

/-- The sum of all balances. -/
def totalSupply (token : Token) : Nat :=
  sumOver (fun entry => entry.2.toNat) token.balances.entries

instance : Ledger Token where
  address := Token.address
  transfer := send
  balance := balance
  lastTransfer := lastSuccess

end Token

end DoubleAuction
