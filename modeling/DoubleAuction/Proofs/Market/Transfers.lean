import DoubleAuction.Market.Payout
import DoubleAuction.Proofs.Ledger.Supply

/-! # Single payouts

A payout that is transferred moves its amount and becomes the latest transfer of its ledger; one
that is not leaves holdings and latest transfers alone (`Payout.transfer_made`,
`Payout.transfer_unmade`). Either way the names and the supplies stay. `totalOn` and `totalTo` say
what a list of payouts takes from a side and gives to an address there.
-/

namespace DoubleAuction

namespace RefusingToken

variable {ledger next : RefusingToken} {sender recipient : Address} {amount : Amount}

theorem transfer_made (made : ledger.transfer sender recipient amount = (true, next)) :
    ledger.token.canSend sender recipient amount = true ∧
      next.token =
        (ledger.token.move sender recipient amount).record sender recipient amount true := by
  unfold transfer at made
  split at made
  · simp at made
  · rcases sent : ledger.token.send sender recipient amount with ⟨success, token⟩
    rw [sent] at made
    obtain ⟨rfl, rfl⟩ := Prod.mk.inj made
    exact Token.send_made sent

/-- A transfer that is not made leaves the token alone or records a failed attempt. -/
theorem transfer_unmade (unmade : ledger.transfer sender recipient amount = (false, next)) :
    ledger.token.Alike next.token := by
  unfold transfer at unmade
  split at unmade
  · obtain ⟨_, rfl⟩ := Prod.mk.inj unmade
    exact .refl ledger.token
  · rcases sent : ledger.token.send sender recipient amount with ⟨success, token⟩
    rw [sent] at unmade
    obtain ⟨rfl, rfl⟩ := Prod.mk.inj unmade
    rw [Token.send_failed sent]
    exact .attempted ledger.token sender recipient amount

/-- A ledger accepts a recipient when it has no refusal left for it. -/
def Accepts (ledger : RefusingToken) (recipient : Address) : Prop :=
  spendRefusal? recipient ledger.refusals = none

theorem accepts_of_unrefused (unrefused : ledger.refusals = []) (recipient : Address) :
    ledger.Accepts recipient := by
  rw [Accepts, unrefused, spendRefusal?]

/-- A ledger makes every transfer that its token can make to a recipient that it accepts. -/
theorem transfer_of_canSend (accepts : ledger.Accepts recipient)
    (sendable : ledger.token.canSend sender recipient amount = true) :
    ∃ next, ledger.transfer sender recipient amount = (true, next) ∧
      next.refusals = ledger.refusals := by
  rw [Accepts] at accepts
  simp only [transfer, accepts, Token.send, sendable, ↓reduceIte]
  exact ⟨_, rfl, rfl⟩

theorem refusals_transfer (unrefused : ledger.refusals = []) (sender recipient : Address)
    (amount : Amount) : (ledger.transfer sender recipient amount).2.refusals = [] := by
  simp only [transfer, unrefused, spendRefusal?]

end RefusingToken

namespace Payout

/-- The amount of a payout in the units of a ledger. -/
def units (payout : Payout) : Amount := payout.amount.toBitVec.setWidth 128

@[simp] theorem units_toNat (payout : Payout) : payout.units.toNat = payout.amount.toNat := by
  have small : payout.amount.toNat < 2 ^ 64 := payout.amount.toNat_lt
  simp only [units, BitVec.toNat_setWidth, UInt64.toNat_toBitVec]
  exact Nat.mod_eq_of_lt (by omega)

/-- What a list of payouts takes out of the escrow of a side. -/
def totalOn (side : Side) (payouts : List Payout) : Nat :=
  sumOver (fun payout => if payout.side = side then payout.amount.toNat else 0) payouts

/-- What a list of payouts gives to an address on the ledger of a side. -/
def totalTo (side : Side) (payee : Address) (payouts : List Payout) : Nat :=
  sumOver (fun payout =>
    if payout.side = side ∧ payout.payee = payee then payout.amount.toNat else 0) payouts

/-- Who is no payee is paid nothing. -/
theorem totalTo_eq_zero {payouts : List Payout} {owner : Address}
    (elsewhere : ∀ payout ∈ payouts, payout.payee ≠ owner) (side : Side) :
    totalTo side owner payouts = 0 :=
  sumOver_eq_zero fun payout member => if_neg fun both => elsewhere payout member both.2

section OnSide

variable {payouts : List Payout} {side : Side}

theorem any_side_iff :
    payouts.any (·.side = side) = true ↔ ∃ payout ∈ payouts, payout.side = side := by
  simp only [List.any_eq_true, decide_eq_true_eq]

theorem of_find?_side {payout : Payout} (found : payouts.find? (·.side = side) = some payout) :
    payout ∈ payouts ∧ payout.side = side := by
  have here := List.find?_some found
  exact ⟨List.mem_of_find?_eq_some found, by simpa only [decide_eq_true_eq] using here⟩

theorem find?_side (back : ∃ payout ∈ payouts, payout.side = side) :
    ∃ payout, payouts.find? (·.side = side) = some payout := by
  apply Option.isSome_iff_exists.mp
  rw [List.find?_isSome]
  simpa only [decide_eq_true_eq] using back

end OnSide

section Transfers

variable {payout : Payout} {ledgers next : Sided RefusingToken} {sender recipient : Address}

theorem transfer_eq (payout : Payout) (ledgers : Sided RefusingToken) (sender recipient : Address) :
    payout.transfer ledgers sender recipient =
      (((ledgers.get payout.side).transfer sender recipient payout.units).1,
        ledgers.set payout.side
          ((ledgers.get payout.side).transfer sender recipient payout.units).2) := rfl

/-- A payout that is transferred moves its amount on the ledger of its side and becomes the latest
transfer there; the other ledger is untouched. -/
theorem transfer_made (made : payout.transfer ledgers sender recipient = (true, next)) :
    (ledgers.get payout.side).token.canSend sender recipient payout.units = true ∧
      ∀ side, (next.get side).token =
        if side = payout.side then
          ((ledgers.get side).token.move sender recipient payout.units).record sender recipient
            payout.units true
        else (ledgers.get side).token := by
  rw [transfer_eq] at made
  obtain ⟨success, rfl⟩ := Prod.mk.inj made
  obtain ⟨sendable, token⟩ := RefusingToken.transfer_made (Prod.ext success rfl)
  refine ⟨sendable, ?_⟩
  intro side
  rw [Sided.get_set]
  split
  case isTrue here => rw [token, here]
  case isFalse => rfl

/-- A payout that is transferred takes its amount from the sender and gives it to the recipient, on
the ledger of its side. -/
theorem balance_of_transfer (made : payout.transfer ledgers sender recipient = (true, next))
    (side : Side) (owner : Address) :
    ((next.get side).token.balance owner).toNat +
        (if payout.side = side ∧ sender = owner then payout.amount.toNat else 0) =
      ((ledgers.get side).token.balance owner).toNat +
        (if payout.side = side ∧ recipient = owner then payout.amount.toNat else 0) := by
  obtain ⟨sendable, token⟩ := transfer_made made
  rw [token side]
  by_cases here : side = payout.side
  · subst here
    have moved := Token.balance_move_toNat sendable owner
    rw [units_toNat] at moved
    simpa only [Token.balance_record, true_and, ↓reduceIte, eq_comm (b := owner)] using moved
  · simp only [here, Ne.symm here, false_and, ↓reduceIte]

/-- A payout that is not transferred leaves both ledgers as good as they were. -/
theorem transfer_unmade (unmade : payout.transfer ledgers sender recipient = (false, next))
    (side : Side) : (ledgers.get side).token.Alike (next.get side).token := by
  rw [transfer_eq] at unmade
  obtain ⟨failure, rfl⟩ := Prod.mk.inj unmade
  rw [Sided.get_set]
  split
  case isTrue here =>
    subst here
    exact RefusingToken.transfer_unmade (Prod.ext failure rfl)
  case isFalse => exact .refl _

/-- Whatever becomes of a transfer, names of ledgers and supplies stay. -/
theorem transfer_frame (payout : Payout) (ledgers : Sided RefusingToken)
    (sender recipient : Address) (side : Side) :
    ((payout.transfer ledgers sender recipient).2.get side).token.address =
        (ledgers.get side).token.address ∧
      ((payout.transfer ledgers sender recipient).2.get side).token.totalSupply =
        (ledgers.get side).token.totalSupply := by
  rcases outcome : payout.transfer ledgers sender recipient with ⟨_ | _, next⟩
  case false =>
    have alike := transfer_unmade outcome side
    exact ⟨alike.address, alike.totalSupply⟩
  case true =>
    obtain ⟨sendable, token⟩ := transfer_made outcome
    simp only [token side]
    split
    case isTrue here =>
      subst here
      exact ⟨Token.address_move _ _ _ _, Token.totalSupply_move sendable⟩
    case isFalse => exact ⟨rfl, rfl⟩

end Transfers

end Payout

end DoubleAuction
