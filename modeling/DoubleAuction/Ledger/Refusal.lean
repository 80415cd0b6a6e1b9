import DoubleAuction.Ledger.Token

/-! # Ledgers that refuse transfers

A token may refuse transfers to certain recipients for a number of times. A refused transfer does
not reach the token's books: nothing is recorded and no balance changes.
-/

namespace DoubleAuction

/-- A recipient and how many more transfers to it are refused. -/
structure Refusal where
  recipient : Address
  count : Nat
  deriving DecidableEq, Repr

/-- A token with its refusals; the first that applies is used. -/
structure RefusingToken where
  token : Token
  refusals : List Refusal
  deriving DecidableEq, Repr

/-- Spends one refusal of transfers to a recipient, if one is left. -/
def spendRefusal? (recipient : Address) : List Refusal → Option (List Refusal)
  | [] => none
  | refusal :: rest =>
    if refusal.recipient = recipient ∧ 0 < refusal.count then
      some ({ refusal with count := refusal.count - 1 } :: rest)
    else (spendRefusal? recipient rest).map (refusal :: ·)

namespace RefusingToken

/-- A token that refuses nothing. -/
def ofToken (token : Token) : RefusingToken := ⟨token, []⟩

/-- Adds refusals behind the ones there are. -/
def refuse (ledger : RefusingToken) (recipient : Address) (count : Nat) : RefusingToken :=
  { ledger with refusals := ledger.refusals ++ [⟨recipient, count⟩] }

/-- Sends an amount unless the transfer is refused. -/
def transfer (ledger : RefusingToken) (sender recipient : Address) (amount : Amount) :
    Bool × RefusingToken :=
  match spendRefusal? recipient ledger.refusals with
  | some refusals => (false, { ledger with refusals })
  | none =>
    let (success, token) := ledger.token.send sender recipient amount
    (success, { ledger with token })

instance : Ledger RefusingToken where
  address ledger := ledger.token.address
  transfer := transfer
  balance ledger := ledger.token.balance
  lastTransfer ledger := ledger.token.lastSuccess

end RefusingToken

end DoubleAuction
