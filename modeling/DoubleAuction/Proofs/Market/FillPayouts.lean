import DoubleAuction.Market.Tick
import DoubleAuction.Proofs.Except
import DoubleAuction.Proofs.Market.Payouts
import DoubleAuction.Proofs.Matching.Conservation

/-! # What fills pay

The payouts of a list of fills add up to what the fills owe, on each side and for every payee
(`totalOn_flatMap_payouts`, `totalTo_flatMap_payouts`). All that a book commits before matches is
afterwards still committed, owed, or retained (`MatchPath.committed`).
-/

namespace DoubleAuction

theorem Fill.mem_payouts {fill : Fill} {payout : Payout} (member : payout ∈ fill.payouts) :
    payout.amount ≠ 0 ∧ ∃ side, payout.payee = fill.trader side := by
  simp only [payouts, List.mem_filter, List.mem_cons, List.not_mem_nil, or_false,
    decide_eq_true_eq] at member
  obtain ⟨rfl | rfl, nonzero⟩ := member
  · exact ⟨nonzero, .sell, rfl⟩
  · exact ⟨nonzero, .buy, rfl⟩

/-- Who is paid out of the escrow of a side. -/
def Fill.payee (fill : Fill) : Side → Address
  | .buy => fill.seller
  | .sell => fill.buyer

/-- What fills pay to an address on the ledger of a side. -/
def receivedBy (fills : List Fill) (side : Side) (owner : Address) : Nat :=
  sumOver (fun fill => if fill.payee side = owner then (fill.paid side).toNat else 0) fills

theorem receivedBy_le_owed (fills : List Fill) (side : Side) (owner : Address) :
    receivedBy fills side owner ≤ owed fills side :=
  sumOver_le (fun fill => by split <;> omega) fills

/-- The traders of fills can be paid: no ledger refuses them, and except for the market itself their
balances have room for what they receive. -/
structure Deliverable (market : Address) (ledgers : Sided RefusingToken) (fills : List Fill) :
    Prop where
  accepted : ∀ payout ∈ fills.flatMap Fill.payouts,
    (ledgers.get payout.side).Accepts payout.payee
  roomy : ∀ side owner, owner ≠ market →
    ((ledgers.get side).token.balance owner).toNat + receivedBy fills side owner < Amount.size

/-- A fill pays once out of each side. That payouts of zero are left out changes no sum. -/
theorem Fill.sumOver_payouts {weigh : Payout → Nat}
    (weightless : ∀ payout : Payout, payout.amount = 0 → weigh payout = 0) (fill : Fill) :
    sumOver weigh fill.payouts =
      weigh ⟨.buy, fill.seller, fill.toSeller⟩ + weigh ⟨.sell, fill.buyer, fill.toBuyer⟩ := by
  refine (sumOver_filter (fun payout dropped => weightless payout ?_) _).trans rfl
  simpa only [ne_eq, decide_not, Bool.not_eq_false', decide_eq_true_eq] using dropped

/-- The payouts of a list of fills take what the fills owe. -/
theorem totalOn_flatMap_payouts (fills : List Fill) (side : Side) :
    Payout.totalOn side (fills.flatMap Fill.payouts) = owed fills side := by
  rw [Payout.totalOn, sumOver_flatMap, owed]
  congr 1
  funext fill
  rw [Fill.sumOver_payouts (fun payout zero => by simp [zero])]
  cases side with
  | buy => rfl
  | sell => exact Nat.zero_add _

/-- The payouts of a list of fills give to everyone what the fills pay to them. -/
theorem totalTo_flatMap_payouts (fills : List Fill) (side : Side) (owner : Address) :
    Payout.totalTo side owner (fills.flatMap Fill.payouts) = receivedBy fills side owner := by
  rw [Payout.totalTo, sumOver_flatMap, receivedBy]
  congr 1
  funext fill
  rw [Fill.sumOver_payouts (fun payout zero => by simp [zero])]
  cases side with
  | buy =>
    simp only [Fill.payee, Fill.paid, true_and, reduceCtorEq, false_and, ↓reduceIte, Nat.add_zero]
    congr
  | sell =>
    simp only [Fill.payee, Fill.paid, true_and, reduceCtorEq, false_and, ↓reduceIte, Nat.zero_add]
    congr

theorem spentBy_all (fills : List Fill) (side : Side) :
    spentBy (fun _ _ => true) fills side = owed fills side + retainedBy fills side := by
  induction fills with
  | nil => rfl
  | cons fill rest ih =>
    simp only [spentBy, owed, retainedBy, sumOver_cons, ↓reduceIte] at ih ⊢
    omega

/-- What matches leave committed, owe and retain is what was committed before them. -/
theorem MatchPath.committed {operator : Address} {heaps last : Sided KeyHeap} {fills : List Fill}
    (path : MatchPath operator heaps fills last)
    (owned : ∀ side, (heaps.get side).owner = operator) (side : Side) :
    (last.get side).committed side + owed fills side + retainedBy fills side =
      (heaps.get side).committed side := by
  have conserved := path.escrowOf owned (fun _ _ => true) side
  rw [spentBy_all, ← KeyHeap.committed_eq_escrowOf, ← KeyHeap.committed_eq_escrowOf] at conserved
  omega

end DoubleAuction
