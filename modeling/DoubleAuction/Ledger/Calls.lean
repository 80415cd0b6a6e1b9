import DoubleAuction.Ledger.Token

/-! # Calls on a token

Anyone may call a token, to issue units or to send them. A run is a list of calls; its log tells of
every call whether it succeeded.
-/

namespace DoubleAuction.Token

/-- A call by anyone. -/
inductive Call where
  | issue (caller recipient : Address) (amount : Amount)
  | send (sender recipient : Address) (amount : Amount)
  deriving DecidableEq, Repr

/-- A call that was carried out, and whether it succeeded. -/
structure Event where
  call : Call
  success : Bool
  deriving DecidableEq, Repr

/-- Carries out a call. -/
def call (token : Token) : Call → Bool × Token
  | .issue caller recipient amount => token.issue caller recipient amount
  | .send sender recipient amount => token.send sender recipient amount

/-- Carries out calls in order. -/
def run (token : Token) : List Call → List Event × Token
  | [] => ([], token)
  | first :: rest =>
    let (success, next) := token.call first
    let (events, last) := next.run rest
    (⟨first, success⟩ :: events, last)

end DoubleAuction.Token
