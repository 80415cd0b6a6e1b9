import DoubleAuction.Book
import DoubleAuction.Ledger

/-! # Escrow positions

On each ledger the market must hold at least what the resting orders of that side commit. What it
holds above that is surplus: rounding left over from settlement, and deposits not yet claimed.
-/

namespace DoubleAuction

/-- What a market holds on a ledger against what its resting orders commit. -/
structure EscrowPosition where
  ledger : Address
  committed : Nat
  held : Nat
  deriving DecidableEq, Repr

namespace EscrowPosition

/-- What is held beyond the commitments. -/
def surplus (position : EscrowPosition) : Nat := position.held - position.committed

/-- Accepts positions that cover their commitments. -/
def check (position : EscrowPosition) : Except Error Unit :=
  if position.held < position.committed then
    .error (.escrowViolated position.ledger position.held position.committed)
  else .ok ()

variable {L : Type u} [Ledger L]

/-- The position of a market on a ledger. -/
def of (ledger : L) (market : Address) (committed : Nat) : EscrowPosition where
  ledger := Ledger.address ledger
  committed
  held := (Ledger.balance ledger market).toNat

/-- The position that a market will have when it has paid what it owes. -/
def afterPaying (ledger : L) (market : Address) (committed owed : Nat) :
    Except Error EscrowPosition :=
  let available := (Ledger.balance ledger market).toNat
  if available < owed then
    .error (.insufficientEscrow (Ledger.address ledger) owed available)
  else .ok ⟨Ledger.address ledger, committed, available - owed⟩

end EscrowPosition

end DoubleAuction
